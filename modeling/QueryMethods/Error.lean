import QueryMethods.MethodName.Basic
import QueryMethods.Method
import QueryMethods.Session.Fault
import QueryMethods.Template.Piece
import QueryMethods.Value.Fault

/-!
# Errors

Every error names its cause; the wording of all of them is here and in the `message` of each cause.
-/

namespace QueryMethods

/-- Why the signature of a method does not fit its name. -/
inductive SignatureFault where
  | name (fault : NameFault)
  | unknownField (token entity : String)
  | incomparable (param : String) (paramType : ValueType) (field : String) (fieldType : ValueType)
  | noFields
deriving DecidableEq

def SignatureFault.message : SignatureFault → String
  | .name fault => fault.message
  | .unknownField token entity => "`" ++ token ++ "` is not a field of " ++ entity
  | .incomparable param paramType field fieldType =>
      "parameter `" ++ param ++ "` of type " ++ paramType.name ++
        " cannot be compared with field `" ++ field ++ "` of type " ++ fieldType.name
  | .noFields => "method name has no field tokens"

/-- Why a template, or the arguments of a call, cannot be bound. -/
inductive BindingFault where
  | template (fault : TemplateFault)
  | unused (names : List String)
  | rowless (shape : Shape)
  | argumentCount (expected found : Nat)
  | argument (param : String) (expected : ValueType) (found : Option ValueType)
  | missingParam (index : Nat)
deriving DecidableEq

def BindingFault.message : BindingFault → String
  | .template fault => fault.message
  | .unused names => "parameter(s) not used by the template: " ++ ", ".intercalate names
  | .rowless shape =>
      "statement produces no rows but the method returns a " ++ shape.name ++ " result"
  | .argumentCount expected found =>
      "expected " ++ toString expected ++ " argument(s), found " ++ toString found
  | .argument param expected found =>
      "argument `" ++ param ++ "` expects " ++ expected.name ++ ", found " ++
        (found.map ValueType.name).getD "NULL"
  | .missingParam index => "bind slot refers to missing parameter " ++ toString index

inductive Error where
  | unresolvable (ref : MethodRef)
  | signature (ref : MethodRef) (fault : SignatureFault)
  | binding (ref : MethodRef) (fault : BindingFault)
  | duplicate (ref : MethodRef)
  | execution (ref : MethodRef) (error : SessionError)
  | decode (error : DecodeError)
  | unknownMethod (ref : MethodRef)
deriving DecidableEq

namespace Error

/-- The wording of an error. The words of the parser of identifiers are its own, so that they are
masked where they are not given. -/
def message (error : Error) (refusal : String → String := fun _ => "<uuid>") : String :=
  match error with
  | .unresolvable ref =>
      "method `" ++ ref.path ++ "` is neither a naming-convention method nor a template method"
  | .signature ref fault =>
      "signature of `" ++ ref.path ++ "` does not match its name: " ++ fault.message
  | .binding ref fault => "cannot bind template of `" ++ ref.path ++ "`: " ++ fault.message
  | .duplicate ref =>
      "method `" ++ ref.path ++ "` is already registered with a different signature"
  | .execution ref error => "query `" ++ ref.path ++ "` failed: " ++ error.message
  | .decode error => error.message refusal
  | .unknownMethod ref => "no generated implementation for `" ++ ref.path ++ "`"

/-- Errors that only a registration reports. -/
def isStartup : Error → Bool
  | .unresolvable _ | .signature _ _ | .duplicate _ => true
  | _ => false

def isExecution : Error → Bool
  | .execution _ _ => true
  | _ => false

end Error

end QueryMethods
