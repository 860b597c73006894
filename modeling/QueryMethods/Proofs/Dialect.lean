import QueryMethods.Dialect

/-!
# What a marker names

A database finds the slot of a marker in its number, or where markers have no numbers by counting
the markers before it. Either way a marker names the slot that it was written for.
-/

namespace QueryMethods.Dialect

def isNumbered : List Char → Bool
  | '$' :: digit :: digits => (digit :: digits).all Char.isDigit
  | _ => false

/-- The slot of a marker with that many others before it. -/
def slot? (dialect : Dialect) (marker : String) (before : Nat) : Option Nat :=
  match dialect with
  | .postgres =>
      if isNumbered marker.toList then
        some (Nat.ofDigitChars 10 (marker.toList.drop 1) 0)
      else
        none
  | .positional => if marker = "?" then some (before + 1) else none

theorem toList_marker_postgres (slot : Nat) :
    (postgres.marker slot).toList = '$' :: Nat.toDigits 10 slot := by
  simp [marker]

theorem isNumbered_marker (slot : Nat) : isNumbered (postgres.marker slot).toList = true := by
  have hdigits : ∀ c ∈ Nat.toDigits 10 slot, c.isDigit = true :=
    fun c hmem => Nat.isDigit_of_mem_toDigits (by decide) (by decide) hmem
  rw [toList_marker_postgres]
  cases hlist : Nat.toDigits 10 slot with
  | nil => exact absurd hlist Nat.toDigits_ne_nil
  | cons digit digits =>
      rw [hlist] at hdigits
      exact List.all_eq_true.mpr hdigits

theorem slot?_marker_postgres (slot before : Nat) :
    postgres.slot? (postgres.marker slot) before = some slot := by
  rw [slot?, if_pos (isNumbered_marker slot), toList_marker_postgres, List.drop_one,
    List.tail_cons, Nat.ofDigitChars_ten_toDigits]

/-- The marker of the next slot names it in both dialects. -/
theorem slot?_marker (dialect : Dialect) (before : Nat) :
    dialect.slot? (dialect.marker (before + 1)) before = some (before + 1) := by
  cases dialect with
  | postgres => exact slot?_marker_postgres (before + 1) before
  | positional => rfl

end QueryMethods.Dialect
