import QueryMethods.Condition.Predicate
import QueryMethods.Entity
import QueryMethods.Method
import QueryMethods.Template.Column

/-!
# Bound templates

Every placeholder gives way to a bind marker. The parameter of a placeholder is the first of its
name, in any ASCII case.
-/

namespace QueryMethods

structure BoundTemplate where
  sql : String
  /-- The parameter behind each marker slot. -/
  binds : List Nat
  returnsRows : Bool
  /-- The parameters that no placeholder names. -/
  unused : List String
deriving DecidableEq

namespace BoundTemplate

def findParam (params : List Param) (name : String) : Except TemplateFault Nat :=
  match params.findIdx? fun param => sameName param.name name with
  | some index => .ok index
  | none => .error (.unknownPlaceholder name)

/-- The slot of every use of a parameter, after those in `binds`, and the parameter of every slot.
A reused slot is the one that the parameter got first. -/
def assignSlots (reuse : Bool) (binds : List Nat) : List Nat → List Nat × List Nat
  | [] => ([], binds)
  | param :: rest =>
      match if reuse then binds.idxOf? param else none with
      | some index =>
          let (slots, all) := assignSlots reuse binds rest
          ((index + 1) :: slots, all)
      | none =>
          let (slots, all) := assignSlots reuse (binds ++ [param]) rest
          ((binds.length + 1) :: slots, all)

/-- The text of pieces, with one marker for each placeholder. -/
def fill : List String → List Piece → List Char
  | _, [] => []
  | markers, .code c :: rest => c :: fill markers rest
  | markers, .hidden c :: rest => c :: fill markers rest
  | markers, .brace c :: rest => c :: fill markers rest
  | marker :: markers, .placeholder _ _ :: rest => marker.toList ++ fill markers rest
  | [], .placeholder _ _ :: rest => fill [] rest

/-- A parameter must fit the field that it is meant for. -/
def checkColumn (entity : Entity) (param : Param) (column : Option String) :
    Except TemplateFault Unit :=
  match column.bind entity.field? with
  | none => .ok ()
  | some field =>
      if param.type.fits field.type then
        .ok ()
      else
        .error (.typeMismatch param.name field.name param.type field.type)

/-- The first use of a parameter that does not fit its field decides. -/
def checkColumns (entity : Entity) : List Param → List (Option String) → Except TemplateFault Unit
  | param :: params, column :: columns =>
      match checkColumn entity param column with
      | .ok () => checkColumns entity params columns
      | .error fault => .error fault
  | _, _ => .ok ()

def unusedNames (params : List Param) (used : List Nat) : List String :=
  params.zipIdx.filterMap fun (param, index) =>
    if used.contains index then none else some param.name

/-- Binds a template to declared parameters, for one entity and dialect. -/
def ofTemplate (template : String) (params : List Param) (entity : Entity) (dialect : Dialect) :
    Except TemplateFault BoundTemplate := do
  let pieces ← piecesOf template.toList
  let used ← (placeholders pieces).mapM (findParam params)
  let cells := mask pieces
  checkColumns entity (used.filterMap (params[·]?)) (targetColumns cells)
  let (slots, binds) := assignSlots dialect.reusesMarkers [] used
  return {
    sql := String.ofList (fill (slots.map dialect.marker) pieces)
    binds
    returnsRows := producesRows (visible cells)
    unused := unusedNames params used }

end BoundTemplate

end QueryMethods
