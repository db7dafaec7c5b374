set_option autoImplicit false

/-!
Text from bytes that may be malformed. Every longest start of a character that breaks off, and
every byte that starts none, is shown as one replacement character.
-/

namespace RecordSchema.Text.Utf8

def replacement : Char := '\ufffd'

/-- A character whose first bytes were seen: its code so far, how many bytes are missing, and the
bounds of the next one. -/
structure Begun where
  code : Nat
  missing : Nat
  least : Nat
  greatest : Nat

/-- What a first byte gives: a character or the start of one. -/
def begin (b : UInt8) : Char ⊕ Begun :=
  let n := b.toNat
  if n < 0x80 then .inl (Char.ofNat n)
  else if n < 0xc2 then .inl replacement
  else if n < 0xe0 then .inr ⟨n - 0xc0, 1, 0x80, 0xbf⟩
  else if n < 0xf0 then
    .inr ⟨n - 0xe0, 2, if n = 0xe0 then 0xa0 else 0x80, if n = 0xed then 0x9f else 0xbf⟩
  else if n < 0xf5 then
    .inr ⟨n - 0xf0, 3, if n = 0xf0 then 0x90 else 0x80, if n = 0xf4 then 0x8f else 0xbf⟩
  else .inl replacement

def decodeAfter : Option Begun → List UInt8 → List Char
  | none, [] => []
  | some _, [] => [replacement]
  | none, b :: rest =>
      match begin b with
      | .inl c => c :: decodeAfter none rest
      | .inr begun => decodeAfter (some begun) rest
  | some begun, b :: rest =>
      let n := b.toNat
      if begun.least ≤ n ∧ n ≤ begun.greatest then
        let code := begun.code * 64 + (n - 0x80)
        if begun.missing ≤ 1 then Char.ofNat code :: decodeAfter none rest
        else decodeAfter (some ⟨code, begun.missing - 1, 0x80, 0xbf⟩) rest
      else
        replacement ::
          match begin b with
          | .inl c => c :: decodeAfter none rest
          | .inr begun => decodeAfter (some begun) rest

def decode (bytes : List UInt8) : String := String.ofList (decodeAfter none bytes)

end RecordSchema.Text.Utf8
