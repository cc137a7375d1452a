-- SUMMARY: Sets of code points given by ranges.

/-!
# Code point ranges

A property of characters is written as a list of ranges, both ends included.
-/

namespace ScriptExec.Text

/-- A set of code points, as ranges with both ends included. -/
abbrev CodeRanges := List (Nat × Nat)

/-- Whether a code point lies in one of the ranges. -/
def CodeRanges.holds (ranges : CodeRanges) (code : Nat) : Bool :=
  ranges.any fun r => r.1 ≤ code && code ≤ r.2

end ScriptExec.Text
