import RecordSchema.Proofs.Calendar.Returned

set_option autoImplicit false

/-!
Dates are written without a colon and times of day with one, so no text is read both as a date
alone and as a timestamp.
-/

namespace RecordSchema.Calendar

open RecordSchema.Text RecordSchema.Number RecordSchema.Scalar

theorem colon_trimStart (cs : List Char) : ':' ∈ trimStart cs ↔ ':' ∈ cs := by
  constructor
  · apply (List.dropWhile_suffix isBlank).subset
  · intro member
    exact mem_dropWhile_blank member (by decide)

namespace Scan

variable {cs rest : List Char}

theorem colon_drop {n : Nat} (absent : ':' ∉ cs.take n) : ':' ∈ cs ↔ ':' ∈ cs.drop n := by
  conv_lhs => rw [← List.take_append_drop n cs, List.mem_append]
  simp [absent]

theorem colon_number {least most : Nat} {value : Int}
    (scanned : number cs least most = some (value, rest)) : ':' ∈ cs ↔ ':' ∈ rest := by
  simp only [number] at scanned
  split at scanned
  next => cases scanned
  next =>
    cases scanned
    apply colon_drop
    -- The characters that are taken are the digits, as they start the text.
    have start : (cs.take most).takeWhile Char.isDigit <+: cs :=
      (List.takeWhile_prefix _).trans (List.take_prefix most cs)
    rw [← List.prefix_iff_eq_take.mp start]
    intro member
    cases List.mem_takeWhile_imp member

theorem colon_signedNumber {most : Nat} {value : Int}
    (scanned : signedNumber cs most = some (value, rest)) : ':' ∈ cs ↔ ':' ∈ rest := by
  unfold signedNumber at scanned
  split at scanned
  next =>
    obtain ⟨_, unsigned, same⟩ := Option.map_eq_some_iff.mp scanned
    cases same
    simpa using colon_number unsigned
  next => simpa using colon_number scanned
  next => exact colon_number scanned

theorem char_eq_some_iff {c : Char} : char c cs = some rest ↔ cs = c :: rest := by
  cases cs with
  | nil => simp [char]
  | cons d left => simp [char, eq_comm]

theorem mem_of_char {c : Char} (scanned : char c cs = some rest) : c ∈ cs := by
  rw [char_eq_some_iff.mp scanned]
  exact List.mem_cons_self

theorem colon_char {c : Char} (other : c ≠ ':') (scanned : char c cs = some rest) :
    ':' ∈ cs ↔ ':' ∈ rest := by
  rw [char_eq_some_iff.mp scanned]
  simp [other.symm]

theorem colon_blanks (scanned : blanks cs = some rest) : ':' ∈ cs ↔ ':' ∈ rest := by
  unfold blanks at scanned
  split at scanned
  next c left =>
    obtain ⟨blank, same⟩ := Option.ite_none_right_eq_some.mp scanned
    cases same
    have other : ':' ≠ c := by
      rintro rfl
      cases blank
    simp [other, colon_trimStart]
  next => cases scanned

theorem colon_word {w : List Char} (plain : ':' ∉ w) (scanned : word w cs = some rest) :
    ':' ∈ cs ↔ ':' ∈ rest := by
  obtain ⟨folded, same⟩ := Option.ite_none_right_eq_some.mp scanned
  cases same
  apply colon_drop
  -- Folding the case of letters keeps a colon.
  intro member
  apply plain
  rw [← folded]
  exact List.mem_map_of_mem member

theorem colon_longName {names : List (List Char × List Char)} {long : Bool} {place : Nat}
    (plain : ∀ entry ∈ names, ':' ∉ entry.1 ∧ ':' ∉ entry.2)
    (scanned : longName names long cs = some (place, rest)) : ':' ∈ cs ↔ ':' ∈ rest := by
  obtain ⟨⟨⟨_, ending⟩, left⟩, found, same⟩ := Option.map_eq_some_iff.mp scanned
  obtain ⟨⟨⟨start, _⟩, _⟩, member, found⟩ := List.exists_of_findSome?_eq_some found
  obtain ⟨_, started, same'⟩ := Option.map_eq_some_iff.mp found
  cases same
  cases same'
  obtain ⟨first, second⟩ := plain _ (List.fst_mem_of_mem_zipIdx member)
  apply (colon_word first started).trans
  cases long with
  | false => rfl
  | true =>
    change ':' ∈ left ↔ ':' ∈ (word ending left).getD left
    cases ended : word ending left with
    | none => rfl
    | some rest => exact colon_word second ended

theorem colon_month {long : Bool} {value : Int} (scanned : month long cs = some (value, rest)) :
    ':' ∈ cs ↔ ':' ∈ rest := by
  obtain ⟨⟨_, _⟩, named, same⟩ := Option.map_eq_some_iff.mp scanned
  cases same
  exact colon_longName (by decide) named

theorem colon_weekday {long : Bool} {value : Weekday}
    (scanned : weekday long cs = some (value, rest)) : ':' ∈ cs ↔ ':' ∈ rest := by
  obtain ⟨⟨_, _⟩, named, same⟩ := Option.map_eq_some_iff.mp scanned
  cases same
  exact colon_longName (by decide) named

end Scan

theorem colon_setFrom {α : Type} {scanned : Scanned α} {set : α → Settled Fields} {f : Fields}
    {cs rest : List Char}
    (scan : ∀ value, scanned = some (value, rest) → (':' ∈ cs ↔ ':' ∈ rest))
    (read : setFrom scanned set = some (f, rest)) : ':' ∈ cs ↔ ':' ∈ rest := by
  obtain ⟨value, taken, _⟩ := setFrom_eq_some_iff.mp read
  exact scan value taken

theorem colon_setFrom_number {least most : Nat} {set : Int → Settled Fields} {f : Fields}
    {cs rest : List Char} (read : setFrom (Scan.number cs least most) set = some (f, rest)) :
    ':' ∈ cs ↔ ':' ∈ rest :=
  colon_setFrom (fun _ => Scan.colon_number) read

/-! Templates of dates and of timestamps. -/

/-- Items that dates alone are made of. -/
def Item.isColonless : Item → Bool
  | .literal c => c != ':'
  | .blanks | .number _ | .monthName _ => true
  | _ => false

theorem colon_readNumber {field : NumericField} {cs rest : List Char} {value : Int}
    (scanned : readNumber field cs = some (value, rest)) : ':' ∈ cs ↔ ':' ∈ rest := by
  apply (colon_trimStart cs).symm.trans
  simp only [readNumber] at scanned
  split at scanned
  next => exact Scan.colon_signedNumber scanned
  next => exact Scan.colon_signedNumber scanned
  next => exact Scan.colon_number scanned

theorem colon_readItem {item : Item} (plain : item.isColonless = true) {f f' : Fields}
    {cs rest : List Char} (read : readItem item f cs = some (f', rest)) :
    ':' ∈ cs ↔ ':' ∈ rest := by
  cases item with
  | literal c =>
    obtain ⟨_, scanned, same⟩ := Option.map_eq_some_iff.mp read
    cases same
    exact Scan.colon_char (bne_iff_ne.mp plain) scanned
  | blanks =>
    cases read
    exact (colon_trimStart cs).symm
  | number field => exact colon_setFrom (fun _ => colon_readNumber) read
  | monthName long => exact colon_setFrom (fun _ => Scan.colon_month) read
  | _ => cases plain

theorem colon_readFrom {template : Template} (plain : ∀ item ∈ template, item.isColonless = true)
    {f f' : Fields} {cs rest : List Char} (read : template.readFrom f cs = some (f', rest)) :
    ':' ∈ cs ↔ ':' ∈ rest := by
  induction template generalizing f cs with
  | nil =>
    cases read
    rfl
  | cons item template ih =>
    rw [Template.readFrom_cons, Option.bind_eq_some_iff] at read
    obtain ⟨⟨g, left⟩, first, others⟩ := read
    apply (colon_readItem (plain item List.mem_cons_self) first).trans
    exact ih (fun item member => plain item (List.mem_cons_of_mem _ member)) others

theorem Template.no_colon_of_fields? {template : Template}
    (plain : ∀ item ∈ template, item.isColonless = true) {cs : List Char} {f : Fields}
    (read : template.fields? cs = some f) : ':' ∉ cs := by
  rw [colon_readFrom plain ((template.fields?_eq_some_iff cs f).mp read)]
  exact List.not_mem_nil

/-- Up to its first colon the template reads what a date may be made of. -/
def Template.IsTimed (template : Template) : Prop :=
  .literal ':' ∈ template ∧
    ∀ item ∈ template.takeWhile (· != .literal ':'), item.isColonless = true

theorem colon_of_readFrom {template : Template} (timed : template.IsTimed) {f f' : Fields}
    {cs rest : List Char} (read : template.readFrom f cs = some (f', rest)) : ':' ∈ cs := by
  obtain ⟨colon, plain⟩ := timed
  induction template generalizing f cs with
  | nil => cases colon
  | cons item template ih =>
    rw [Template.readFrom_cons, Option.bind_eq_some_iff] at read
    obtain ⟨⟨g, left⟩, first, others⟩ := read
    by_cases own : item = .literal ':'
    next =>
      subst own
      obtain ⟨_, scanned, _⟩ := Option.map_eq_some_iff.mp first
      exact Scan.mem_of_char scanned
    next =>
      have later : .literal ':' ∈ template := (List.mem_cons.mp colon).resolve_left (Ne.symm own)
      have taken : (item :: template).takeWhile (· != .literal ':') =
          item :: template.takeWhile (· != .literal ':') :=
        List.takeWhile_cons_of_pos (bne_iff_ne.mpr own)
      rw [taken, List.forall_mem_cons] at plain
      apply (colon_readItem plain.1 first).mpr
      exact ih others later plain.2

theorem Template.colon_of_fields? {template : Template} (timed : template.IsTimed)
    {cs : List Char} {f : Fields} (read : template.fields? cs = some f) : ':' ∈ cs :=
  colon_of_readFrom timed ((template.fields?_eq_some_iff cs f).mp read)

/-! RFC 3339 and RFC 2822. -/

theorem colon_of_rfc3339Fields? {cs : List Char} {f : Fields}
    (fields : rfc3339Fields? cs = some f) : ':' ∈ cs := by
  unfold rfc3339Fields? at fields
  obtain ⟨⟨withYear, rest⟩, year, fields⟩ := Option.bind_eq_some_iff.mp fields
  obtain ⟨atMonth, hyphen, fields⟩ := Option.bind_eq_some_iff.mp fields
  obtain ⟨⟨withMonth, rest⟩, month, fields⟩ := Option.bind_eq_some_iff.mp fields
  obtain ⟨atDay, hyphen', fields⟩ := Option.bind_eq_some_iff.mp fields
  obtain ⟨⟨withDay, rest⟩, day, fields⟩ := Option.bind_eq_some_iff.mp fields
  obtain ⟨⟨mark, atHour⟩, first, fields⟩ := Option.bind_eq_some_iff.mp fields
  obtain ⟨_, head, same⟩ := Option.map_eq_some_iff.mp first
  obtain ⟨tail, shape⟩ := List.head?_eq_some_iff.mp head
  cases same
  dsimp only at fields
  split at fields
  next => cases fields
  next =>
    obtain ⟨⟨withHour, atMinute⟩, hour, fields⟩ := Option.bind_eq_some_iff.mp fields
    obtain ⟨_, colon, _⟩ := Option.bind_eq_some_iff.mp fields
    apply (colon_setFrom_number year).mpr
    apply (Scan.colon_char (by decide) hyphen).mpr
    apply (colon_setFrom_number month).mpr
    apply (Scan.colon_char (by decide) hyphen').mpr
    apply (colon_setFrom_number day).mpr
    rw [shape] at hour ⊢
    exact List.mem_cons_of_mem mark ((colon_setFrom_number hour).mpr (Scan.mem_of_char colon))

theorem colon_of_rfc2822Fields? {cs : List Char} {f : Fields}
    (fields : rfc2822Fields? cs = some f) : ':' ∈ cs := by
  unfold rfc2822Fields? at fields
  -- The weekday may be missing: what is read after it is the same.
  extract_lets start zone clock at fields
  have colon_clock (state : Fields × List Char) (read : clock state = some f) : ':' ∈ state.2 := by
    obtain ⟨⟨withDay, afterDay⟩, day, read⟩ := Option.bind_eq_some_iff.mp read
    obtain ⟨atMonth, blanks, read⟩ := Option.bind_eq_some_iff.mp read
    obtain ⟨⟨withMonth, afterMonth⟩, month, read⟩ := Option.bind_eq_some_iff.mp read
    obtain ⟨atYear, blanks', read⟩ := Option.bind_eq_some_iff.mp read
    obtain ⟨⟨_, afterYear⟩, year, read⟩ := Option.bind_eq_some_iff.mp read
    obtain ⟨withYear, _, read⟩ := Option.bind_eq_some_iff.mp read
    obtain ⟨atHour, blanks'', read⟩ := Option.bind_eq_some_iff.mp read
    obtain ⟨⟨withHour, afterHour⟩, hour, read⟩ := Option.bind_eq_some_iff.mp read
    obtain ⟨_, colon, _⟩ := Option.bind_eq_some_iff.mp read
    apply (colon_trimStart _).mp
    apply (colon_setFrom_number day).mpr
    apply (Scan.colon_blanks blanks).mpr
    apply (colon_setFrom (fun _ => Scan.colon_month) month).mpr
    apply (Scan.colon_blanks blanks').mpr
    apply (Scan.colon_number year).mpr
    apply (Scan.colon_blanks blanks'').mpr
    apply (colon_setFrom_number hour).mpr
    exact (colon_trimStart _).mp (Scan.mem_of_char colon)
  apply (colon_trimStart cs).mp
  split at fields
  next weekday rest named =>
    obtain ⟨afterComma, comma, fields⟩ := Option.bind_eq_some_iff.mp fields
    obtain ⟨⟨withWeekday, left⟩, set, fields⟩ := Option.bind_eq_some_iff.mp fields
    obtain ⟨_, same, _⟩ := setFrom_eq_some_iff.mp set
    cases same
    apply (Scan.colon_weekday named).mpr
    apply (Scan.colon_char (by decide) comma).mpr
    exact colon_clock (withWeekday, afterComma) fields
  next => exact colon_clock ({}, start) fields

/-! The readers of dates and of timestamps together. -/

theorem colonless_commonDateTemplates :
    ∀ template ∈ commonDateTemplates, ∀ item ∈ template, item.isColonless = true := by
  decide

theorem timed_zonedTemplates : ∀ template ∈ zonedTemplates, template.IsTimed := by
  unfold Template.IsTimed
  decide

theorem timed_zonelessTemplates : ∀ template ∈ zonelessTemplates, template.IsTimed := by
  unfold Template.IsTimed
  decide

/-- A text without a colon is no timestamp, so it can only be read as a date. -/
theorem timestamp?_of_colonless {cs : List Char} (colonless : ':' ∉ cs) :
    rfc3339? cs = none ∧ rfc2822? cs = none ∧
      timestamp? cs = (commonDate? cs).map fun date => .ofUtc date .midnight := by
  have rfc3339 : rfc3339? cs = none := by
    rw [rfc3339?, Option.bind_eq_none_iff]
    intro f fields
    exact absurd (colon_of_rfc3339Fields? fields) colonless
  have rfc2822 : rfc2822? cs = none := by
    rw [rfc2822?, Option.bind_eq_none_iff]
    intro f fields
    exact absurd (colon_of_rfc2822Fields? fields) colonless
  have zoned : zonedTemplates.findSome? (Template.timestamp? · cs) = none := by
    rw [List.findSome?_eq_none_iff]
    intro template member
    rw [Template.timestamp?, Option.bind_eq_none_iff]
    intro f fields
    exact absurd (Template.colon_of_fields? (timed_zonedTemplates template member) fields) colonless
  have zoneless : zonelessTemplates.findSome? (Template.utcTimestamp? · cs) = none := by
    rw [List.findSome?_eq_none_iff]
    intro template member
    rw [Template.utcTimestamp?, Option.bind_eq_none_iff]
    intro f fields
    exact absurd (Template.colon_of_fields? (timed_zonelessTemplates template member) fields)
      colonless
  refine ⟨rfc3339, rfc2822, ?_⟩
  rw [timestamp?, rfc3339, rfc2822, zoned, zoneless]
  rfl

/-- A timestamp in the form of RFC 3339 or of RFC 2822. -/
def standardTimestamp? (cs : List Char) : Option Timestamp := (rfc3339? cs).or (rfc2822? cs)

theorem timestamp?_of_commonDate? {cs : List Char} {d : Date} (read : commonDate? cs = some d) :
    ∃ t, timestamp? cs = some t ∧ t.date = d ∧
      (standardTimestamp? cs).getD (.ofUtc d .midnight) = t := by
  have dated := read
  simp only [commonDate?, Option.orElse_eq_or, Option.or_eq_some_iff] at dated
  rcases dated with layout | ⟨_, first | ⟨missing, second⟩⟩
  next =>
    obtain ⟨template, member, layout⟩ := List.exists_of_findSome?_eq_some layout
    obtain ⟨f, fields, _⟩ := Option.bind_eq_some_iff.mp layout
    have colonless := Template.no_colon_of_fields? (colonless_commonDateTemplates template member)
      fields
    obtain ⟨rfc3339, rfc2822, day⟩ := timestamp?_of_colonless colonless
    rw [day, standardTimestamp?, rfc3339, rfc2822, read]
    exact ⟨.ofUtc d .midnight, rfl, rfl, rfl⟩
  next =>
    obtain ⟨t, rfc3339, rfl⟩ := Option.map_eq_some_iff.mp first
    refine ⟨t, ?_, rfl, ?_⟩
    · rw [timestamp?, rfc3339]
      rfl
    · rw [standardTimestamp?, rfc3339]
      rfl
  next =>
    obtain ⟨t, rfc2822, rfl⟩ := Option.map_eq_some_iff.mp second
    have rfc3339 : rfc3339? cs = none := Option.map_eq_none_iff.mp missing
    refine ⟨t, ?_, rfl, ?_⟩
    · rw [timestamp?, rfc3339, rfc2822]
      rfl
    · rw [standardTimestamp?, rfc3339, rfc2822]
      rfl

end RecordSchema.Calendar
