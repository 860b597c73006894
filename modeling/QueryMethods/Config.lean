import QueryMethods.Dialect
import QueryMethods.Document
import QueryMethods.Value.Type

/-! The configuration of a registry. -/

namespace QueryMethods

/-- What happens when a template ignores a declared parameter. -/
inductive UnusedPolicy where
  | deny
  | warn
deriving DecidableEq

def UnusedPolicy.name : UnusedPolicy → String
  | .deny => "deny"
  | .warn => "warn"

def UnusedPolicy.ofName? : String → Option UnusedPolicy
  | "deny" => some .deny
  | "warn" => some .warn
  | _ => none

structure Config where
  dialect : Dialect := .postgres
  unused : UnusedPolicy := .deny
  defaultSchema : Option String := none
deriving DecidableEq

namespace Config

/-- One setting of a configuration that is built step by step. -/
inductive Setting where
  | dialect (value : Dialect)
  | unused (value : UnusedPolicy)
  | schema (value : String)

def apply (config : Config) : Setting → Config
  | .dialect value => { config with dialect := value }
  | .unused value => { config with unused := value }
  | .schema value => { config with defaultSchema := some value }

/-- Reads a setting; a missing one has its default. -/
def readOr {α : Type} (default : α) (read : Document → Option α) : Option Document → Option α
  | none => some default
  | some document => read document

def readSchema : Document → Option (Option String)
  | .null => some none
  | .text schema => some (some schema)
  | _ => none

def ofSettings? (dialect unused defaultSchema : Option Document) : Option Config := do
  let dialect ← readOr .postgres (Document.variant? Dialect.ofName?) dialect
  let unused ← readOr .deny (Document.variant? UnusedPolicy.ofName?) unused
  let defaultSchema ← readOr none readSchema defaultSchema
  some { dialect, unused, defaultSchema }

/-- Reads a configuration: settings under their keys, where unknown keys are ignored, or a list of
them, from which the last ones may be missing. -/
def ofDocument? (document : Document) : Option Config :=
  match document with
  | .object _ =>
      ofSettings? (document.entry? "dialect") (document.entry? "unused_parameters")
        (document.entry? "default_schema")
  | .list items => if items.length ≤ 3 then ofSettings? items[0]? items[1]? items[2]? else none
  | _ => none

end Config

def ValueType.ofDocument? : Document → Option ValueType :=
  Document.variant? ValueType.ofName?

end QueryMethods
