import QueryMethods.Template.Binding

/-!
# Statements

What a registered method sends to the database, and what becomes of the session afterwards.
-/

namespace QueryMethods

/-- What becomes of a session whose statement succeeded. -/
inductive CommitPolicy where
  | commit
  | discard
deriving DecidableEq

def CommitPolicy.name : CommitPolicy → String
  | .commit => "Commit"
  | .discard => "Discard"

/-- Only a modifying template commits. -/
def CommitPolicy.ofModifying (modifying : Bool) : CommitPolicy :=
  if modifying then .commit else .discard

/-- Where the text of a statement comes from. -/
inductive StatementSource where
  | derived (condition : Condition)
  | template (bound : BoundTemplate)
deriving DecidableEq

structure Statement where
  entity : Entity
  source : StatementSource
  sql : String
  /-- The parameter behind each marker slot. -/
  binds : List Nat
  shape : Shape
  returnsRows : Bool
  policy : CommitPolicy
deriving DecidableEq

end QueryMethods
