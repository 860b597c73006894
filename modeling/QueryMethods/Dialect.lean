/-! How bind markers are written. -/

namespace QueryMethods

inductive Dialect where
  | postgres
  | positional
deriving DecidableEq

namespace Dialect

def name : Dialect → String
  | .postgres => "postgres"
  | .positional => "positional"

def ofName? : String → Option Dialect
  | "postgres" => some .postgres
  | "positional" => some .positional
  | _ => none

/-- The marker of a slot, where slots count from one. -/
def marker : Dialect → Nat → String
  | .postgres, slot => "$" ++ toString slot
  | .positional, _ => "?"

/-- Whether one slot may be written more than once. -/
def reusesMarkers : Dialect → Bool
  | .postgres => true
  | .positional => false

end Dialect

end QueryMethods
