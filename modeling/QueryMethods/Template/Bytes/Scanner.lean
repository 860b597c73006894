import QueryMethods.Template.Piece
import QueryMethods.Text.Utf8

/-!
# A scanner of bytes

The scanner goes over the bytes of a template, and remembers no more than the quote that is open.
It blanks what is not code, and notes the places of placeholders and doubled braces. A step has no
result if it looks at bytes that are not there, or cuts the template inside a character; a run has
none if one of its steps has none, or if it does not come to an end.
-/

namespace QueryMethods.Bytes

/-- A placeholder, with the bytes that its marker replaces. -/
structure Occurrence where
  name : String
  start : Nat
  stop : Nat
deriving DecidableEq

/-- What a scanner finds in a template. -/
structure Scan where
  occurrences : List Occurrence := []
  /-- The places of doubled braces. -/
  escapes : List Nat := []
  /-- The template, with everything but its code blanked. -/
  masked : List UInt8
deriving DecidableEq

/-- What a scanner does next. -/
inductive Move where
  | lineComment
  | blockComment
  /-- Opens a quote, or closes the one that is open. -/
  | quote
  /-- Notes a doubled brace. -/
  | brace
  | placeholder
  | plain
deriving DecidableEq

/-- The byte at hand decides, together with the next one and the open quote. -/
def Move.of (b : UInt8) (next quote : Option UInt8) : Move :=
  if b = '-'.toUInt8 ∧ quote = none ∧ next = some '-'.toUInt8 then
    .lineComment
  else if b = '/'.toUInt8 ∧ quote = none ∧ next = some '*'.toUInt8 then
    .blockComment
  else if (b = '\''.toUInt8 ∨ b = '"'.toUInt8) ∧ (quote = none ∨ quote = some b) then
    .quote
  else if (b = '{'.toUInt8 ∨ b = '}'.toUInt8) ∧ next = some b then
    .brace
  else if b = '{'.toUInt8 then
    .placeholder
  else
    .plain

structure Scanner where
  place : Nat
  quote : Option UInt8
  found : Scan
deriving DecidableEq

namespace Scanner

/-- Blanks a comment up to its end, and goes on there. -/
def skipTo? (scanner : Scanner) (stop : Nat) : Option Scanner := do
  let masked ← blank? scanner.found.masked scanner.place stop
  some { scanner with place := stop, found.masked := masked }

/-- Notes a placeholder, and goes on after it. -/
def note? (scanner : Scanner) (name : String) (start stop : Nat) : Option Scanner := do
  let masked ← blank? scanner.found.masked start stop
  some {
    place := stop
    quote := none
    found := {
      occurrences := scanner.found.occurrences ++ [⟨name, start, stop⟩]
      escapes := scanner.found.escapes
      masked } }

/-- Whether the byte before a placeholder and the byte after it are both the open quote. -/
def wrapped? (bytes : List UInt8) (start close : Nat) (quote : UInt8) : Option Bool :=
  if start = 0 then
    some false
  else do
    let before ← bytes[start - 1]?
    some (before == quote && bytes[close + 1]? == some quote)

/-- Reads a placeholder whose brace is at hand. -/
def placeholder? (text : List Char) (scanner : Scanner) :
    Option (Except TemplateFault Scanner) := do
  let after ← textFrom? text (scanner.place + 1)
  match placeOf? ['}'] after with
  | none => some (.error (.unterminated scanner.place))
  | some length =>
      let close := scanner.place + 1 + length
      let name ← textBetween? text (scanner.place + 1) close
      if isIdentifier name then
        match scanner.quote with
        | none => (scanner.note? (String.ofList name) scanner.place (close + 1)).map .ok
        | some quote =>
            if ← wrapped? (utf8 text) scanner.place close quote then
              (scanner.note? (String.ofList name) (scanner.place - 1) (close + 2)).map .ok
            else
              some (.error (.insideLiteral (String.ofList name)))
      else
        some (.error (.invalidName (String.ofList name)))

/-- One step, which goes by the byte at hand, the next one and the open quote. -/
def step? (text : List Char) (scanner : Scanner) : Option (Except TemplateFault Scanner) := do
  let bytes := utf8 text
  let place := scanner.place
  let b ← bytes[place]?
  match Move.of b bytes[place + 1]? scanner.quote with
  | .lineComment =>
      let rest ← textFrom? text place
      let stop := ((placeOf? ['\n'] rest).map (place + ·)).getD bytes.length
      (scanner.skipTo? stop).map .ok
  | .blockComment =>
      let rest ← textFrom? text (place + 2)
      let stop := ((placeOf? ['*', '/'] rest).map (place + 2 + · + 2)).getD bytes.length
      (scanner.skipTo? stop).map .ok
  | .quote =>
      let quote := if scanner.quote = none then some b else none
      some (.ok { scanner with place := place + 1, quote })
  | .brace =>
      let masked ← blank? scanner.found.masked place (place + 2)
      some (.ok { scanner with
        place := place + 2
        found := {
          occurrences := scanner.found.occurrences
          escapes := scanner.found.escapes ++ [place]
          masked } })
  | .placeholder => scanner.placeholder? text
  | .plain =>
      if scanner.quote = some '\''.toUInt8 then
        let masked ← blank? scanner.found.masked place (place + 1)
        some (.ok { scanner with place := place + 1, found.masked := masked })
      else
        some (.ok { scanner with place := place + 1 })

/-- Goes on to the end of the template, for as many steps as there is fuel. -/
def run? (text : List Char) : Nat → Scanner → Option (Except TemplateFault Scan)
  | fuel, scanner =>
      if scanner.place < byteLength text then
        match fuel with
        | 0 => none
        | fuel + 1 => do
            match ← scanner.step? text with
            | .error fault => some (.error fault)
            | .ok next => run? text fuel next
      else
        some (.ok scanner.found)

end Scanner

/-- Scans a template, in no more steps than it has bytes. -/
def scan? (text : List Char) : Option (Except TemplateFault Scan) :=
  Scanner.run? text (byteLength text) ⟨0, none, { masked := utf8 text }⟩

end QueryMethods.Bytes
