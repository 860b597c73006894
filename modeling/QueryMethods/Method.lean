import QueryMethods.MethodName.Parser
import QueryMethods.Value.Codec

/-! Declared query methods, as they are handed to a registry. -/

namespace QueryMethods

structure Param where
  name : String
  type : ValueType
  nullable : Bool := false
deriving DecidableEq

def Param.ofHost (name : String) (type : HostType) : Param :=
  ⟨name, type.valueType, type.nullable⟩

structure Method where
  name : String
  params : List Param := []
  shape : Shape := .optional
  template : Option String := none
  modifying : Bool := false
  skip : Bool := false
deriving DecidableEq

/-- How a method gets its statement. -/
inductive MethodKind where
  | skipped
  | template (sql : String)
  | derived
  | unresolvable
deriving DecidableEq

/-- A skipped method has no statement, a template wins over the name, and any other method needs a
name that opens with a verb. -/
def Method.kind (method : Method) : MethodKind :=
  if method.skip then
    .skipped
  else
    match method.template with
    | some sql => .template sql
    | none => if MethodName.hasVerb method.name then .derived else .unresolvable

/-- Names one method of one repository. -/
structure MethodRef where
  repository : String
  method : String
deriving DecidableEq

def MethodRef.path (ref : MethodRef) : String :=
  ref.repository ++ "::" ++ ref.method

end QueryMethods
