/-!
# Similar words

Two words are alike by the characters that they have in common at nearly the same places, by the
order of these, and by a common beginning.
-/

namespace QueryMethods

/-- A fraction of natural numbers. -/
structure Fraction where
  numerator : Nat
  denominator : Nat
deriving DecidableEq

namespace Fraction

def less (left right : Fraction) : Bool :=
  decide (left.numerator * right.denominator < right.numerator * left.denominator)

end Fraction

/-- Takes the first free `c` at a place from `low` to `high`, where the list starts at `place`. -/
def claim? (c : Char) (low high : Nat) : Nat → List (Char × Bool) → Option (List (Char × Bool))
  | _, [] => none
  | place, (other, taken) :: rest =>
      if decide (low ≤ place) && decide (place ≤ high) && !taken && other == c then
        some ((other, true) :: rest)
      else
        (claim? c low high (place + 1) rest).map ((other, taken) :: ·)

/-- The characters of a word, from a place on, that find their like, and what they take. -/
def claimAll (reach : Nat) : Nat → List Char → List (Char × Bool) → List Char × List (Char × Bool)
  | _, [], others => ([], others)
  | place, c :: rest, others =>
      match claim? c (place - reach) (place + reach) 0 others with
      | some taken =>
          let (found, final) := claimAll reach (place + 1) rest taken
          (c :: found, final)
      | none => claimAll reach (place + 1) rest others

/-- The length of the common beginning. -/
def commonStart : List Char → List Char → Nat
  | c :: left, d :: right => if c = d then commonStart left right + 1 else 0
  | _, _ => 0

/-- The mean of three shares: of the common characters in each word, and of those in order. -/
def agreement (left right : List Char) : Fraction :=
  let reach := max left.length right.length / 2 - 1
  let (found, final) := claimAll reach 0 left (right.map (·, false))
  let taken := (final.filter (·.2)).map (·.1)
  let common := found.length
  let ordered := common - ((found.zip taken).filter fun (c, d) => c != d).length / 2
  if common = 0 then
    ⟨0, 1⟩
  else
    { numerator := common * common * (left.length + right.length) +
        ordered * left.length * right.length
      denominator := 3 * left.length * right.length * common }

/-- Words that agree well gain a tenth of what is missing by each of the first four characters that
they have in common. -/
def similarity (left right : List Char) : Fraction :=
  let base := agreement left right
  if base.less ⟨7, 10⟩ then
    base
  else
    let start := min 4 (commonStart left right)
    { numerator := 10 * base.numerator + start * (base.denominator - base.numerator)
      denominator := 10 * base.denominator }

/-- The first of the words that are most similar to `word`, with its similarity. -/
def mostSimilar? (word : String) : List String → Option (String × Fraction)
  | [] => none
  | other :: rest =>
      let found := similarity word.toList other.toList
      match mostSimilar? word rest with
      | some (best, degree) =>
          if found.less degree then some (best, degree) else some (other, found)
      | none => some (other, found)

/-- The word that was meant, if one is similar enough. -/
def meantWord? (word : String) (known : List String) : Option String :=
  match mostSimilar? word known with
  | some (best, degree) => if Fraction.less ⟨4, 5⟩ degree then some best else none
  | none => none

end QueryMethods
