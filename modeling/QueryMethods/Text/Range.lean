/-! Sets of characters, given by ranges of their codes. -/

namespace QueryMethods

def inRange (first last code : Nat) : Bool :=
  decide (first ≤ code) && decide (code ≤ last)

/-- A code in a range, a whole number of steps after the first. -/
def inRun (first last step code : Nat) : Bool :=
  inRange first last code && (code - first) % step == 0

def inRanges (ranges : List (Nat × Nat)) (c : Char) : Bool :=
  ranges.any fun (first, last) => inRange first last c.toNat

def inRuns (runs : List (Nat × Nat × Nat)) (c : Char) : Bool :=
  runs.any fun (first, last, step) => inRun first last step c.toNat

end QueryMethods
