import QueryMethods.MethodName.Basic
import QueryMethods.Text.Ascii

/-!
Reading a method name. It is cut at every connector, from the left, and each connector takes both
of its underscores.
-/

namespace QueryMethods

/-- The pieces of a text between its connectors, and the connectors. -/
def splitConnectors : List Char → List (List Char) × List Connector
  | '_' :: 'a' :: 'n' :: 'd' :: '_' :: rest =>
      let (pieces, connectors) := splitConnectors rest
      ([] :: pieces, .and :: connectors)
  | '_' :: 'o' :: 'r' :: '_' :: rest =>
      let (pieces, connectors) := splitConnectors rest
      ([] :: pieces, .or :: connectors)
  | c :: rest =>
      match splitConnectors rest with
      | (piece :: pieces, connectors) => ((c :: piece) :: pieces, connectors)
      | ([], connectors) => ([[c]], connectors)
  | [] => ([[]], [])

namespace MethodName

/-- The verb that a lowered name opens with, and the rest of the name. -/
def splitVerb? (name : List Char) : Option (Verb × List Char) :=
  Verb.all.findSome? fun verb =>
    if verb.opening.isPrefixOf name then some (verb, name.drop verb.opening.length) else none

def hasVerb (name : String) : Bool :=
  (splitVerb? (foldCase name.toList)).isSome

/-- Reads a name in any ASCII case; a name without a verb is no query name. -/
def parse (name : String) : Except NameFault (Option MethodName) :=
  match splitVerb? (foldCase name.toList) with
  | none => .ok none
  | some (verb, rest) =>
      let (pieces, connectors) := splitConnectors rest
      match pieces.findIdx? List.isEmpty with
      | some position => .error (.emptyField position)
      | none => .ok (some ⟨verb, pieces.map String.ofList, connectors⟩)

/-- The first position whose field and parameter have different names. -/
def findMisnamed? : List String → List String → Nat → Option NameFault
  | field :: fields, param :: params, position =>
      if sameName field param then
        findMisnamed? fields params (position + 1)
      else
        some (.misnamed field param position)
  | _, _, _ => none

/-- A name fits its method when parameters follow the fields one by one, in any ASCII case, and
the declared result is the one that the verb demands. -/
def align (name : MethodName) (params : List String) (shape : Shape) : Except NameFault Unit :=
  if name.fields.length ≠ params.length then
    .error (.arity name.fields.length params.length)
  else
    match findMisnamed? name.fields params 0 with
    | some fault => .error fault
    | none =>
        if name.verb.shape = shape then .ok () else .error (.shape name.verb.shape shape)

end MethodName

end QueryMethods
