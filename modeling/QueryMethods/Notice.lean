import QueryMethods.Session.Fault
import QueryMethods.Statement

/-! What a registry tells its host about its work, next to results and errors. -/

namespace QueryMethods

inductive Severity where
  | debug
  | info
  | warn
deriving DecidableEq

def Severity.name : Severity → String
  | .debug => "DEBUG"
  | .info => "INFO"
  | .warn => "WARN"

inductive Notice where
  | executing (shape : Shape) (policy : CommitPolicy) (sql : String)
  | abandoned (ref : MethodRef)
  | unreleased (error : SessionError)
  | rollbackFailed (error : SessionError)
  | entityConflict (repository registered requested : String)
  | unchanged (ref : MethodRef)
  | skipped (ref : MethodRef)
  | registered (ref : MethodRef) (shape : Shape) (policy : CommitPolicy) (sql : String)
  | unusedParams (ref : MethodRef) (names : List String)
  | built (repositories methods : Nat)
deriving DecidableEq

/-- A detail of a notice. -/
inductive Detail where
  | text (value : String)
  | count (value : Nat)
deriving DecidableEq

namespace Notice

def severity : Notice → Severity
  | .executing .. | .unchanged _ | .skipped _ | .registered .. => .debug
  | .built .. => .info
  | .abandoned _ | .unreleased _ | .rollbackFailed _ | .entityConflict .. | .unusedParams .. =>
      .warn

def message : Notice → String
  | .executing .. => "executing"
  | .abandoned _ => "session dropped before release, leaving rollback to the driver"
  | .unreleased _ => "failed to release read-only session"
  | .rollbackFailed _ => "rollback failed after statement error"
  | .entityConflict .. => "repository already registered for another entity"
  | .unchanged _ => "identical re-registration ignored"
  | .skipped _ => "skipped, hand-written body"
  | .registered .. => "method registered"
  | .unusedParams .. => "template ignores declared parameters"
  | .built .. => "query registry built"

def refDetails (ref : MethodRef) : List (String × Detail) :=
  [("repository", .text ref.repository), ("method", .text ref.method)]

def statementDetails (shape : Shape) (policy : CommitPolicy) (sql : String) :
    List (String × Detail) :=
  [("shape", .text shape.name), ("policy", .text policy.name), ("sql", .text sql)]

def details : Notice → List (String × Detail)
  | .executing shape policy sql => statementDetails shape policy sql
  | .abandoned ref | .unchanged ref | .skipped ref => refDetails ref
  | .unreleased error | .rollbackFailed error => [("error", .text error.message)]
  | .entityConflict repository current requested =>
      [("repository", .text repository), ("registered", .text current),
        ("requested", .text requested)]
  | .registered ref shape policy sql => refDetails ref ++ statementDetails shape policy sql
  | .unusedParams ref names => refDetails ref ++ [("unused", .text (", ".intercalate names))]
  | .built repositories methods =>
      [("repositories", .count repositories), ("methods", .count methods)]

end Notice

end QueryMethods
