import RecordSchema.Json.Printer
import RecordSchema.Json.Reader

set_option autoImplicit false

/-!
Data text without numbers: it shows where it ends, so what is written can be told from the text and
whatever follows it; and it holds no control characters.
-/

namespace RecordSchema.Json

section Strings

theorem hexDigit?_lowerHexDigit {d : Nat} (single : d < 16) :
    Text.hexDigit? (Text.lowerHexDigit d) = some d := by
  have all : ∀ d, d < 16 → Text.hexDigit? (Text.lowerHexDigit d) = some d := by decide
  exact all d single

/-- The character that follows a backslash, with what is left of the text. -/
def escaped? : List Char → Option (Char × List Char)
  | 'u' :: _ :: _ :: high :: low :: rest =>
      (Text.hexDigit? high).bind fun high =>
        (Text.hexDigit? low).map fun low => (Char.ofNat (16 * high + low), rest)
  | c :: rest => (Token.simpleEscape? c).map fun plain => (plain, rest)
  | [] => none

/-- The first character of an escaped text, with what is left of the text. -/
def unescape? : List Char → Option (Char × List Char)
  | c :: rest => if c = '\\' then escaped? rest else some (c, rest)
  | [] => none

theorem unescape?_escapeChar (c : Char) (rest : List Char) :
    unescape? (escapeChar c ++ rest) = some (c, rest) := by
  by_cases short : c ∈ ['"', '\\', '\x08', '\x0c', '\n', '\r', '\t']
  next =>
    simp only [List.mem_cons, List.not_mem_nil, or_false] at short
    rcases short with rfl | rfl | rfl | rfl | rfl | rfl | rfl <;> rfl
  next =>
    simp only [List.mem_cons, List.not_mem_nil, or_false, not_or] at short
    obtain ⟨quote, backslash, back, feed, line, carriage, tab⟩ := short
    by_cases control : c.toNat < 0x20
    next =>
      have high := hexDigit?_lowerHexDigit (d := c.toNat / 16) (by omega)
      have low := hexDigit?_lowerHexDigit (d := c.toNat % 16) (by omega)
      have whole : Char.ofNat (16 * (c.toNat / 16) + c.toNat % 16) = c := by
        rw [Nat.div_add_mod, Char.ofNat_toNat]
      simp [escapeChar, quote, backslash, back, feed, line, carriage, tab, control, unescape?,
        escaped?, high, low, whole]
    next =>
      simp [escapeChar, quote, backslash, back, feed, line, carriage, tab, control, unescape?]

theorem escapeChar_head_ne_quote (c : Char) (rest : List Char) :
    (escapeChar c ++ rest).head? ≠ some '"' := by
  intro same
  -- The character read off would be a quote, but a quote is written with a backslash before it.
  have first := unescape?_escapeChar c rest
  cases written : escapeChar c ++ rest with
  | nil =>
    rw [written] at same
    cases same
  | cons d others =>
    rw [written] at same first
    cases same
    have quote : c = '"' := by
      cases first
      rfl
    subst quote
    cases written

/-- Only the closing quote ends a text. -/
theorem escaped_unique (cs cs' rest rest' : List Char)
    (same : cs.flatMap escapeChar ++ '"' :: rest = cs'.flatMap escapeChar ++ '"' :: rest') :
    cs = cs' ∧ rest = rest' := by
  induction cs generalizing cs' with
  | nil =>
    cases cs' with
    | nil =>
      cases same
      exact ⟨rfl, rfl⟩
    | cons c' cs' =>
      rw [List.flatMap_cons, List.append_assoc] at same
      exact absurd (congrArg List.head? same).symm (escapeChar_head_ne_quote c' _)
  | cons c cs ih =>
    cases cs' with
    | nil =>
      rw [List.flatMap_cons, List.append_assoc] at same
      exact absurd (congrArg List.head? same) (escapeChar_head_ne_quote c _)
    | cons c' cs' =>
      rw [List.flatMap_cons, List.flatMap_cons, List.append_assoc, List.append_assoc] at same
      have first := congrArg unescape? same
      rw [unescape?_escapeChar, unescape?_escapeChar, Option.some.injEq, Prod.mk.injEq] at first
      obtain ⟨rfl, others⟩ := first
      obtain ⟨rfl, rfl⟩ := ih cs' others
      exact ⟨rfl, rfl⟩

theorem quoted_unique (s s' : String) (rest rest' : List Char)
    (same : quoted s ++ rest = quoted s' ++ rest') : s = s' ∧ rest = rest' := by
  simp only [quoted, List.cons_append, List.append_assoc, List.cons.injEq, true_and,
    List.nil_append] at same
  obtain ⟨chars, rfl⟩ := escaped_unique _ _ _ _ same
  exact ⟨String.toList_injective chars, rfl⟩

end Strings

mutual

/-- No number occurs in the data. -/
def NumberFree : Json → Prop
  | null | bool _ | str _ => True
  | num _ => False
  | arr items => AllNumberFree items
  | obj fields => FieldsNumberFree fields

def AllNumberFree : List Json → Prop
  | [] => True
  | item :: rest => item.NumberFree ∧ AllNumberFree rest

def FieldsNumberFree : List (String × Json) → Prop
  | [] => True
  | (_, value) :: rest => value.NumberFree ∧ FieldsNumberFree rest

end

theorem allNumberFree_iff (items : List Json) :
    AllNumberFree items ↔ ∀ item ∈ items, item.NumberFree := by
  induction items with
  | nil => simp [AllNumberFree]
  | cons item rest ih => simp [AllNumberFree, ih]

theorem fieldsNumberFree_iff (fields : List (String × Json)) :
    FieldsNumberFree fields ↔ ∀ field ∈ fields, field.2.NumberFree := by
  induction fields with
  | nil => simp [FieldsNumberFree]
  | cons field rest ih => simp [FieldsNumberFree, ih]

/-- The first character of the text of data that is no number. -/
def lead : Json → Char
  | null | num _ => 'n'
  | bool b => if b then 't' else 'f'
  | str _ => '"'
  | arr _ => '['
  | obj _ => '\x7b'

theorem head?_chars {j : Json} (free : j.NumberFree) (rest : List Char) :
    (j.chars ++ rest).head? = some j.lead := by
  cases j with
  | null => simp [chars, nullChars, lead]
  | bool b => cases b <;> simp [chars, boolChars, lead]
  | num n => cases free
  | str s => simp [chars, quoted, lead]
  | arr items => cases items <;> simp [chars, lead]
  | obj fields => cases fields <;> simp [chars, lead]

theorem lead_ne_bracket (j : Json) : j.lead ≠ ']' := by
  cases j with
  | bool b => cases b <;> simp [lead]
  | _ => simp [lead]

theorem lead_eq_of_same {j j' : Json} (free : j.NumberFree) (free' : j'.NumberFree)
    {rest rest' : List Char} (same : j.chars ++ rest = j'.chars ++ rest') : j'.lead = j.lead := by
  have heads := congrArg List.head? same
  rw [head?_chars free, head?_chars free'] at heads
  exact (Option.some.inj heads).symm

-- No two kinds of data have texts that begin alike.
section Kinds

variable {j : Json} (free : j.NumberFree)

include free

theorem eq_null_of_lead (first : j.lead = 'n') : j = null := by
  cases j with
  | null => rfl
  | num n => cases free
  | bool b => cases b <;> simp [lead] at first
  | _ => simp [lead] at first

theorem eq_bool_of_lead {b : Bool} (first : j.lead = (bool b).lead) : j = bool b := by
  cases j with
  | bool b' => cases b <;> cases b' <;> simp [lead] at first ⊢
  | num n => cases free
  | _ => cases b <;> simp [lead] at first

theorem eq_str_of_lead (first : j.lead = '"') : ∃ s, j = str s := by
  cases j with
  | str s => exact ⟨s, rfl⟩
  | bool b => cases b <;> simp [lead] at first
  | _ => simp [lead] at first

theorem eq_arr_of_lead (first : j.lead = '[') : ∃ items, j = arr items := by
  cases j with
  | arr items => exact ⟨items, rfl⟩
  | bool b => cases b <;> simp [lead] at first
  | _ => simp [lead] at first

theorem eq_obj_of_lead (first : j.lead = '\x7b') : ∃ fields, j = obj fields := by
  cases j with
  | obj fields => exact ⟨fields, rfl⟩
  | bool b => cases b <;> simp [lead] at first
  | _ => simp [lead] at first

end Kinds

/-- The text of a sequence after its opening bracket. -/
def itemChars : List Json → List Char
  | [] => [']']
  | item :: rest => item.chars ++ restChars rest

/-- The text of an object after its opening brace. -/
def fieldChars : List (String × Json) → List Char
  | [] => ['\x7d']
  | (key, value) :: rest => quoted key ++ ':' :: value.chars ++ restFieldChars rest

theorem chars_arr (items : List Json) : (arr items).chars = '[' :: itemChars items := by
  cases items <;> simp [chars, itemChars]

theorem chars_obj (fields : List (String × Json)) :
    (obj fields).chars = '\x7b' :: fieldChars fields := by
  cases fields <;> simp [chars, fieldChars]

-- Both texts begin alike, so the data is of one kind, and each part ends where the other does.
mutual

theorem chars_unique : ∀ {j j' : Json}, j.NumberFree → j'.NumberFree → ∀ {rest rest' : List Char},
    j.chars ++ rest = j'.chars ++ rest' → j = j' ∧ rest = rest'
  | null, j', free, free', rest, rest', same => by
      obtain rfl := eq_null_of_lead free' (lead_eq_of_same free free' same)
      exact ⟨rfl, List.append_cancel_left same⟩
  | bool b, j', free, free', rest, rest', same => by
      obtain rfl := eq_bool_of_lead free' (lead_eq_of_same free free' same)
      exact ⟨rfl, List.append_cancel_left same⟩
  | num n, _, free, _, _, _, _ => by cases free
  | str s, j', free, free', rest, rest', same => by
      obtain ⟨s', rfl⟩ := eq_str_of_lead free' (lead_eq_of_same free free' same)
      obtain ⟨rfl, rfl⟩ := quoted_unique s s' rest rest' same
      exact ⟨rfl, rfl⟩
  | arr items, j', free, free', rest, rest', same => by
      obtain ⟨items', rfl⟩ := eq_arr_of_lead free' (lead_eq_of_same free free' same)
      rw [chars_arr, chars_arr, List.cons_append, List.cons_append] at same
      obtain ⟨rfl, rfl⟩ := itemChars_unique free free' (List.cons.inj same).2
      exact ⟨rfl, rfl⟩
  | obj fields, j', free, free', rest, rest', same => by
      obtain ⟨fields', rfl⟩ := eq_obj_of_lead free' (lead_eq_of_same free free' same)
      rw [chars_obj, chars_obj, List.cons_append, List.cons_append] at same
      obtain ⟨rfl, rfl⟩ := fieldChars_unique free free' (List.cons.inj same).2
      exact ⟨rfl, rfl⟩

theorem itemChars_unique : ∀ {items items' : List Json}, AllNumberFree items →
    AllNumberFree items' → ∀ {rest rest' : List Char},
    itemChars items ++ rest = itemChars items' ++ rest' → items = items' ∧ rest = rest'
  | [], [], _, _, _, _, same => ⟨rfl, List.append_cancel_left same⟩
  | [], item' :: others', _, free', rest, rest', same => by
      rw [itemChars, itemChars, List.append_assoc] at same
      have heads := congrArg List.head? same
      rw [head?_chars free'.1] at heads
      exact absurd (Option.some.inj heads).symm item'.lead_ne_bracket
  | item :: others, [], free, _, rest, rest', same => by
      rw [itemChars, itemChars, List.append_assoc] at same
      have heads := congrArg List.head? same
      rw [head?_chars free.1] at heads
      exact absurd (Option.some.inj heads) item.lead_ne_bracket
  | item :: others, item' :: others', free, free', rest, rest', same => by
      rw [itemChars, itemChars, List.append_assoc, List.append_assoc] at same
      obtain ⟨rfl, remaining⟩ := chars_unique free.1 free'.1 same
      obtain ⟨rfl, rfl⟩ := restChars_unique free.2 free'.2 remaining
      exact ⟨rfl, rfl⟩

theorem restChars_unique : ∀ {items items' : List Json}, AllNumberFree items →
    AllNumberFree items' → ∀ {rest rest' : List Char},
    restChars items ++ rest = restChars items' ++ rest' → items = items' ∧ rest = rest'
  | [], [], _, _, _, _, same => ⟨rfl, List.append_cancel_left same⟩
  | [], _ :: _, _, _, _, _, same => by simp [restChars] at same
  | _ :: _, [], _, _, _, _, same => by simp [restChars] at same
  | item :: others, item' :: others', free, free', rest, rest', same => by
      rw [restChars, restChars, List.cons_append, List.cons_append, List.append_assoc,
        List.append_assoc] at same
      obtain ⟨rfl, remaining⟩ := chars_unique free.1 free'.1 (List.cons.inj same).2
      obtain ⟨rfl, rfl⟩ := restChars_unique free.2 free'.2 remaining
      exact ⟨rfl, rfl⟩

theorem fieldChars_unique : ∀ {fields fields' : List (String × Json)}, FieldsNumberFree fields →
    FieldsNumberFree fields' → ∀ {rest rest' : List Char},
    fieldChars fields ++ rest = fieldChars fields' ++ rest' → fields = fields' ∧ rest = rest'
  | [], [], _, _, _, _, same => ⟨rfl, List.append_cancel_left same⟩
  | [], _ :: _, _, _, _, _, same => by simp [fieldChars, quoted] at same
  | _ :: _, [], _, _, _, _, same => by simp [fieldChars, quoted] at same
  | (key, value) :: others, (key', value') :: others', free, free', rest, rest', same => by
      simp only [fieldChars, List.append_assoc] at same
      obtain ⟨rfl, valued⟩ := quoted_unique key key' _ _ same
      simp only [List.cons_append] at valued
      obtain ⟨rfl, remaining⟩ := chars_unique free.1 free'.1 (List.cons.inj valued).2
      obtain ⟨rfl, rfl⟩ := restFieldChars_unique free.2 free'.2 remaining
      exact ⟨rfl, rfl⟩

theorem restFieldChars_unique : ∀ {fields fields' : List (String × Json)},
    FieldsNumberFree fields → FieldsNumberFree fields' → ∀ {rest rest' : List Char},
    restFieldChars fields ++ rest = restFieldChars fields' ++ rest' →
      fields = fields' ∧ rest = rest'
  | [], [], _, _, _, _, same => ⟨rfl, List.append_cancel_left same⟩
  | [], _ :: _, _, _, _, _, same => by simp [restFieldChars] at same
  | _ :: _, [], _, _, _, _, same => by simp [restFieldChars] at same
  | (key, value) :: others, (key', value') :: others', free, free', rest, rest', same => by
      simp only [restFieldChars, List.cons_append, List.append_assoc] at same
      obtain ⟨rfl, valued⟩ := quoted_unique key key' _ _ (List.cons.inj same).2
      obtain ⟨rfl, remaining⟩ := chars_unique free.1 free'.1 (List.cons.inj valued).2
      obtain ⟨rfl, rfl⟩ := restFieldChars_unique free.2 free'.2 remaining
      exact ⟨rfl, rfl⟩

end

def NoControl (cs : List Char) : Prop := ∀ c ∈ cs, 0x20 ≤ c.toNat

@[simp] theorem noControl_nil : NoControl [] := by
  intro c member
  cases member

@[simp] theorem noControl_cons (c : Char) (cs : List Char) :
    NoControl (c :: cs) ↔ 0x20 ≤ c.toNat ∧ NoControl cs := by
  simp [NoControl]

@[simp] theorem noControl_append (cs cs' : List Char) :
    NoControl (cs ++ cs') ↔ NoControl cs ∧ NoControl cs' := by
  simp [NoControl, or_imp, forall_and]

theorem noControl_lowerHexDigit {d : Nat} (single : d < 16) :
    0x20 ≤ (Text.lowerHexDigit d).toNat := by
  have all : ∀ d, d < 16 → 0x20 ≤ (Text.lowerHexDigit d).toNat := by decide
  exact all d single

theorem noControl_escapeChar (c : Char) : NoControl (escapeChar c) := by
  unfold escapeChar
  iterate 7
    split
    · simp
  split
  next control =>
    have high := noControl_lowerHexDigit (d := c.toNat / 16) (by omega)
    have low := noControl_lowerHexDigit (d := c.toNat % 16) (by omega)
    simp [high, low]
  next visible => simpa using visible

theorem noControl_quoted (s : String) : NoControl (quoted s) := by
  have inner : NoControl (s.toList.flatMap escapeChar) := by
    intro d member
    obtain ⟨c, _, written⟩ := List.mem_flatMap.mp member
    exact noControl_escapeChar c d written
  simp [quoted, inner]

mutual

theorem noControl_chars : ∀ j : Json, j.NumberFree → NoControl j.chars
  | null, _ => by simp [chars, nullChars]
  | bool b, _ => by cases b <;> simp [chars, boolChars]
  | num _, free => by cases free
  | str s, _ => by
      rw [chars]
      exact noControl_quoted s
  | arr [], _ => by simp [chars]
  | arr (item :: others), free => by
      simp [chars, noControl_chars item free.1, noControl_restChars others free.2]
  | obj [], _ => by simp [chars]
  | obj ((key, value) :: others), free => by
      simp [chars, noControl_quoted key, noControl_chars value free.1,
        noControl_restFieldChars others free.2]

theorem noControl_restChars : ∀ items : List Json, AllNumberFree items →
    NoControl (restChars items)
  | [], _ => by simp [restChars]
  | item :: others, free => by
      simp [restChars, noControl_chars item free.1, noControl_restChars others free.2]

theorem noControl_restFieldChars : ∀ fields : List (String × Json), FieldsNumberFree fields →
    NoControl (restFieldChars fields)
  | [], _ => by simp [restFieldChars]
  | (key, value) :: others, free => by
      simp [restFieldChars, noControl_quoted key, noControl_chars value free.1,
        noControl_restFieldChars others free.2]

end

end RecordSchema.Json
