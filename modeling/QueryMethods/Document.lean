/-! Documents that a host program hands over as configuration. -/

namespace QueryMethods

inductive Document where
  | null
  | bool (value : Bool)
  | number (text : String)
  | text (value : String)
  | list (items : List Document)
  | object (entries : List (String × Document))
deriving Inhabited

/-- The entry under a key, if the document is an object that has one. -/
def Document.entry? (document : Document) (key : String) : Option Document :=
  match document with
  | .object entries => (entries.find? (·.1 == key)).map (·.2)
  | _ => none

/-- One of several names, bare or as the only key of an object, over `null`. -/
def Document.variant? {α : Type} (ofName? : String → Option α) : Document → Option α
  | .text name => ofName? name
  | .object [(name, .null)] => ofName? name
  | _ => none

end QueryMethods
