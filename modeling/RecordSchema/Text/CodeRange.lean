set_option autoImplicit false

/-!
Sets of code points as lists of closed ranges.
-/

namespace RecordSchema.Text

abbrev CodeRanges := List (Nat × Nat)

def CodeRanges.hasCode (ranges : CodeRanges) (code : Nat) : Bool :=
  ranges.any fun range => range.1 ≤ code && code ≤ range.2

end RecordSchema.Text
