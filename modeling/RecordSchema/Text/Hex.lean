set_option autoImplicit false

/-!
Hexadecimal digits, and characters by their code.
-/

namespace RecordSchema.Text

def lowerHexDigit (n : Nat) : Char :=
  if n < 10 then Char.ofNat (48 + n) else Char.ofNat (87 + n)

def upperHexDigit (n : Nat) : Char :=
  if n < 10 then Char.ofNat (48 + n) else Char.ofNat (55 + n)

def hexDigit? (c : Char) : Option Nat :=
  if c.isDigit then some (c.toNat - 48)
  else if 'a' ≤ c ∧ c ≤ 'f' then some (c.toNat - 87)
  else if 'A' ≤ c ∧ c ≤ 'F' then some (c.toNat - 55)
  else none

def hexValue? (cs : List Char) : Option Nat :=
  cs.foldlM (fun n c => (hexDigit? c).map fun d => n * 16 + d) 0

def charOfCode? (code : Nat) : Option Char :=
  if h : code.isValidChar then some ⟨UInt32.ofNat code, by
    have lt : code < UInt32.size := by
      unfold Nat.isValidChar at h
      simp only [UInt32.size]
      omega
    simpa [UInt32.isValidChar, UInt32.toNat_ofNat_of_lt' lt] using h⟩
  else none

end RecordSchema.Text
