/-!
Classes of characters, given as lists of code point ranges with both ends included.
-/

set_option autoImplicit false
set_option relaxedAutoImplicit false

namespace RecordTemplate.Text

abbrev CharRanges := List (Nat × Nat)

def CharRanges.contains (ranges : CharRanges) (c : Char) : Bool :=
  ranges.any fun (first, last) ↦ first ≤ c.toNat && c.toNat ≤ last

end RecordTemplate.Text
