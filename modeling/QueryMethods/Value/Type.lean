/-! The types that a column, a parameter or an argument may have. -/

namespace QueryMethods

inductive ValueType where
  | bool
  | int
  | float
  | text
  | uuid
  | timestamp
deriving DecidableEq

namespace ValueType

def all : List ValueType :=
  [.bool, .int, .float, .text, .uuid, .timestamp]

def name : ValueType → String
  | .bool => "bool"
  | .int => "int"
  | .float => "float"
  | .text => "text"
  | .uuid => "uuid"
  | .timestamp => "timestamp"

def ofName? (name : String) : Option ValueType :=
  all.find? (·.name == name)

/-- A value fits its own type, and an integer also fits a float. -/
def fits (found expected : ValueType) : Bool :=
  found == expected || (found == .int && expected == .float)

theorem ofName?_name (type : ValueType) : ofName? type.name = some type := by
  cases type <;> decide

theorem fits_iff {found expected : ValueType} :
    found.fits expected = true ↔ found = expected ∨ (found = .int ∧ expected = .float) := by
  simp [fits]

end ValueType

end QueryMethods
