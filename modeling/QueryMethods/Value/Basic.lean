import QueryMethods.Float.Binary
import QueryMethods.Uuid
import QueryMethods.Value.Type

/-! Values that travel to and from the database. -/

namespace QueryMethods

/-- Seconds since the Unix epoch and the nanoseconds past them. -/
structure Timestamp where
  seconds : Int
  nanoseconds : Nat
deriving DecidableEq

inductive Value where
  | null
  | bool (value : Bool)
  | int (value : Int64)
  | float (value : Binary64)
  | text (value : String)
  | uuid (value : Uuid)
  | timestamp (value : Timestamp)
deriving DecidableEq

namespace Value

/-- The type of a value; `NULL` has none. -/
def type? : Value → Option ValueType
  | .null => none
  | .bool _ => some .bool
  | .int _ => some .int
  | .float _ => some .float
  | .text _ => some .text
  | .uuid _ => some .uuid
  | .timestamp _ => some .timestamp

def isNull (value : Value) : Bool :=
  value.type?.isNone

/-- Values of one type compare by content, floats as numbers; values of two types differ. -/
def equals : Value → Value → Bool
  | .float left, .float right => left.equals right
  | left, right => left == right

/-- The value as one of type `target`: an integer widens to a float, and `NULL` has every type. -/
def coerce? (value : Value) (target : ValueType) : Option Value :=
  match value.type? with
  | none => some value
  | some type =>
      if type = target then
        some value
      else
        match value, target with
        | .int n, .float => some (.float (.ofInt n.toInt))
        | _, _ => none

@[simp]
theorem isNull_eq_true_iff {value : Value} : value.isNull = true ↔ value = .null := by
  cases value <;> simp [isNull, type?]

/-- A value can be coerced exactly when it is `NULL` or its type fits the target. -/
theorem coerce?_isSome_iff {value : Value} {target : ValueType} :
    (value.coerce? target).isSome = true ↔ ∀ type ∈ value.type?, type.fits target = true := by
  cases value <;> cases target <;> simp [coerce?, type?, ValueType.fits]

end Value

end QueryMethods
