import QueryMethods.Row
import QueryMethods.Text.Search

/-! Databases, as one session sees them. -/

namespace QueryMethods

/-- A value for one marker slot, with the type that its parameter declares. -/
structure Bind where
  type : ValueType
  value : Value
deriving DecidableEq

/-- How a request to the database ends, if it ends at all. -/
inductive Reply (ε α : Type) where
  | done (value : α)
  | failed (cause : ε)
  | pending
deriving DecidableEq

/-- The behaviour of a database towards one session; a fault is the text of the driver's error. -/
structure Database where
  openFault : Option String
  fetch : String → List Bind → Reply String (List Row)
  execute : String → List Bind → Reply String UInt64
  commitFault : Option String
  rollbackFault : Option String

/-- A database that answers by what occurs in the text of a statement. -/
structure Script where
  openFault : Option String := none
  commitFault : Option String := none
  rollbackFault : Option String := none
  /-- Texts whose first occurrence makes a statement fail, and the errors. -/
  faults : List (String × String) := []
  /-- Texts whose first occurrence decides on the rows, and the rows. -/
  rows : List (String × List Row) := []
  affected : UInt64 := 1
  hangs : Bool := false

namespace Script

def lookup? {α : Type} (sql : String) (entries : List (String × α)) : Option α :=
  (entries.find? fun entry => occursIn entry.1.toList sql.toList).map (·.2)

def reply {α : Type} (script : Script) (sql : String) (value : α) : Reply String α :=
  if script.hangs then
    .pending
  else
    match lookup? sql script.faults with
    | some text => .failed text
    | none => .done value

def database (script : Script) : Database :=
  { openFault := script.openFault
    fetch := fun sql _ => script.reply sql ((lookup? sql script.rows).getD [])
    execute := fun sql _ => script.reply sql script.affected
    commitFault := script.commitFault
    rollbackFault := script.rollbackFault }

end Script

end QueryMethods
