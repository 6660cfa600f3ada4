/-!
# Sets of characters given by ranges of code points

A character property of the Unicode database is a finite list of closed ranges. `inRanges` is
membership in such a list. The property modules of this folder decide the characters below 128
by a rule of their own and consult their list only above it.
-/

namespace ModuleGraph.Text

/-- A code point lies in one of the closed ranges. -/
def inRanges (ranges : Array (Nat × Nat)) (point : Nat) : Bool :=
  ranges.any fun range => range.1 ≤ point && point ≤ range.2

end ModuleGraph.Text
