import QueryMethods.Template.Binding
import QueryMethods.Template.Bytes.Columns

/-!
# Binding by places

Every placeholder and every doubled brace is an edit of the template: its bytes give way to a marker
or to one brace. The edits are sorted by their places and made from left to right. What cuts the
template inside a character or outside its bounds has no result.
-/

namespace QueryMethods.Bytes

/-- Bytes of a template, and the text that they give way to. -/
structure Edit where
  start : Nat
  stop : Nat
  text : List Char
deriving DecidableEq

def markerEdits (dialect : Dialect) (slots : List Nat) (placeholders : List Occurrence) :
    List Edit :=
  (placeholders.zip slots).map fun (placeholder, slot) =>
    ⟨placeholder.start, placeholder.stop, (dialect.marker slot).toList⟩

/-- A doubled brace gives way to the first one. -/
def escapeEdit? (template : List Char) (place : Nat) : Option Edit :=
  (textBetween? template place (place + 1)).map fun brace => ⟨place, place + 2, brace⟩

/-- All edits, sorted by their places. -/
def edits? (template : List Char) (dialect : Dialect) (slots : List Nat) (found : Scan) :
    Option (List Edit) := do
  let escapes ← found.escapes.mapM (escapeEdit? template)
  some ((markerEdits dialect slots found.occurrences ++ escapes).mergeSort
    fun left right => left.start ≤ right.start)

/-- The template from a place on, with the edits made. -/
def splice? (template : List Char) : Nat → List Edit → Option (List Char)
  | place, [] => textFrom? template place
  | place, edit :: edits => do
      let kept ← textBetween? template place edit.start
      let later ← splice? template edit.stop edits
      some (kept ++ edit.text ++ later)

/-- Binds a template to declared parameters, for one entity and dialect. -/
def bind? (template : String) (params : List Param) (entity : Entity) (dialect : Dialect) :
    Option (Except TemplateFault BoundTemplate) := do
  match ← scan? template.toList with
  | .error fault => some (.error fault)
  | .ok found =>
      match (found.occurrences.map Occurrence.name).mapM (BoundTemplate.findParam params) with
      | .error fault => some (.error fault)
      | .ok used =>
          let columns ← targetColumns? found
          match BoundTemplate.checkColumns entity (used.filterMap (params[·]?)) columns with
          | .error fault => some (.error fault)
          | .ok () =>
              let (slots, binds) := BoundTemplate.assignSlots dialect.reusesMarkers [] used
              let edits ← edits? template.toList dialect slots found
              let sql ← splice? template.toList 0 edits
              some (.ok {
                sql := String.ofList sql
                binds
                returnsRows := producesRows found.shown
                unused := BoundTemplate.unusedNames params used })

end QueryMethods.Bytes
