import QueryMethods.Template.Column
import QueryMethods.Template.Bytes.Scanner

/-!
# Columns behind placeholders, by places

The checks on a template go by places in its masked bytes, each read as the character of its code.
Whatever looks at a place that is not there, or counts below zero, has no result.
-/

namespace QueryMethods.Bytes

/-- What a masked template shows, byte by byte. -/
def Scan.shown (found : Scan) : List Char :=
  found.masked.map Char.ofUInt8

def minus? (n m : Nat) : Option Nat :=
  if m ≤ n then some (n - m) else none

/-- The place after the last character of a kind. -/
def afterLast (kind : Char → Bool) (text : List Char) : Nat :=
  (text.reverse.dropWhile fun c => !kind c).length

def trimEnd? (text : List Char) : Option (List Char) :=
  slice? text 0 (afterLast (fun c => !isBlank c) text)

def trim? (text : List Char) : Option (List Char) := do
  trimEnd? (← slice? text (text.takeWhile isBlank).length text.length)

/-- The identifier that a text ends with, less its qualifier and double quotes. -/
def identifierAtEnd? (text : List Char) : Option (Option String) := do
  let start := afterLast (fun c => !(isWordChar c || c == '.' || c == '"')) text
  let reference ← slice? text start text.length
  let name := (reference.reverse.takeWhile (· != '.')).reverse.filter (· != '"')
  some (if name.isEmpty || !name.all isWordChar then none else some (String.ofList name))

/-- Comparison operators, the longer ones first. -/
def operators : List String :=
  ["<>", "!=", "<=", ">=", "=", "<", ">"]

/-- The column that is compared with what begins at a place. -/
def comparedColumn? (shown : List Char) (place : Nat) : Option (Option String) := do
  let before ← trimEnd? (← slice? shown 0 place)
  match operators.find? (·.toList.isSuffixOf before) with
  | some operator =>
      let stop ← minus? before.length operator.length
      identifierAtEnd? (← trimEnd? (← slice? before 0 stop))
  | none =>
      let start := afterLast (fun c => !isWordChar c) before
      let word ← slice? before start before.length
      if isKeyword "like" word || isKeyword "ilike" word then
        identifierAtEnd? (← trimEnd? (← slice? before 0 start))
      else
        some none

/-- Whether a whole word stands at a place, in any ASCII case. -/
def wordAt? (shown : List Char) (keyword : String) (place : Nat) : Option Bool := do
  let stop := place + keyword.length
  if isKeyword keyword (← slice? shown place stop) then
    let before ← if place = 0 then some false else (shown[place - 1]?).map isWordChar
    some (!before && !(shown[stop]?).any isWordChar)
  else
    some false

/-- The place of the first whole word from a place on. -/
def findWord? (shown : List Char) (keyword : String) (start : Nat) : Option (Option Nat) :=
  (List.range' start (shown.length - (keyword.length - 1) - start)).findM? (wordAt? shown keyword)

/-- The place of the parenthesis that closes the open ones; `place` is the place of the text. -/
def closeFrom? : Nat → Nat → List Char → Option (Option Nat)
  | _, _, [] => some none
  | depth, place, c :: rest =>
      if c = '(' then
        closeFrom? (depth + 1) (place + 1) rest
      else if c = ')' then do
        let left ← minus? depth 1
        if left = 0 then some (some place) else closeFrom? left (place + 1) rest
      else
        closeFrom? depth (place + 1) rest

/-- The places of the first parentheses that begin at a place or after it. -/
def parenthesized? (shown : List Char) (start : Nat) : Option (Option (Nat × Nat)) := do
  let rest ← slice? shown start shown.length
  match rest.dropWhile (· != '(') with
  | [] => some none
  | opening :: after =>
      let place := start + (rest.takeWhile (· != '(')).length
      (closeFrom? 0 place (opening :: after)).map (·.map (place, ·))

/-- The ranges between commas that no parentheses enclose; `place` is the place of the text, and
`start` the place of the range that it continues. -/
def rangesFrom (depth place start : Nat) : List Char → List (Nat × Nat)
  | [] => [(start, place)]
  | c :: rest =>
      if c = '(' then
        rangesFrom (depth + 1) (place + 1) start rest
      else if c = ')' then
        rangesFrom (depth - 1) (place + 1) start rest
      else if c = ',' ∧ depth = 0 then
        (start, place) :: rangesFrom depth (place + 1) (place + 1) rest
      else
        rangesFrom depth (place + 1) start rest

def splitTopLevel? (shown : List Char) (start stop : Nat) : Option (List (Nat × Nat)) :=
  (slice? shown start stop).map (rangesFrom 0 start start)

/-- The column of a range in the list of columns. -/
def columnIn? (shown : List Char) (range : Nat × Nat) : Option (Option String) := do
  identifierAtEnd? (← trim? (← slice? shown range.1 range.2))

/-- The number of the placeholder that stands alone in a range, with its column. -/
def target? (found : Scan) (column : Option String) (range : Nat × Nat) :
    Option (Option (Nat × String)) :=
  match column, found.occurrences.findIdx? fun placeholder =>
      range.1 ≤ placeholder.start && placeholder.stop ≤ range.2 with
  | some column, some number => do
      let placeholder ← found.occurrences[number]?
      let left ← trim? (← slice? found.shown range.1 placeholder.start)
      let right ← trim? (← slice? found.shown placeholder.stop range.2)
      some (if left.isEmpty && right.isEmpty then some (number, column) else none)
  | _, _ => some none

/-- The placeholders that stand alone as values of the first row of an `INSERT`, with the columns
they stand for. -/
def insertTargets? (found : Scan) : Option (List (Nat × String)) := do
  let some insert ← findWord? found.shown "insert" 0 | some []
  let some (columnsOpen, columnsClose) ← parenthesized? found.shown insert | some []
  let some values ← findWord? found.shown "values" columnsClose | some []
  let some (valuesOpen, valuesClose) ← parenthesized? found.shown values | some []
  let columns ← (← splitTopLevel? found.shown (columnsOpen + 1) columnsClose).mapM
    (columnIn? found.shown)
  let ranges ← splitTopLevel? found.shown (valuesOpen + 1) valuesClose
  let targets ← (columns.zip ranges).mapM fun (column, range) => target? found column range
  some (targets.filterMap id)

/-- The column that every placeholder is meant for; an `INSERT` decides before a comparison. -/
def targetColumns? (found : Scan) : Option (List (Option String)) := do
  let inserted ← insertTargets? found
  found.occurrences.zipIdx.mapM fun (placeholder, number) =>
    match inserted.lookup number with
    | some column => some (some column)
    | none => comparedColumn? found.shown placeholder.start

end QueryMethods.Bytes
