import QueryMethods.Condition.Basic
import QueryMethods.Row

/-! The meaning of a condition on one row. -/

namespace QueryMethods.Condition

/-- A `NULL` argument asks for a column that is missing or `NULL`, any other for an equal value;
a missing argument matches nothing. -/
def matchesColumns (column : String → Option Value) (args : List Value) : Condition → Bool
  | .equal field param =>
      match args[param]? with
      | none => false
      | some .null => (column field).all Value.isNull
      | some value => (column field).any (·.equals value)
  | .join .and left right => left.matchesColumns column args && right.matchesColumns column args
  | .join .or left right => left.matchesColumns column args || right.matchesColumns column args

def matchesRow (row : Row) (args : List Value) (tree : Condition) : Bool :=
  tree.matchesColumns row.value? args

end QueryMethods.Condition
