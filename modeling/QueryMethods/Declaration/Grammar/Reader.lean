import QueryMethods.Declaration.Grammar.Cue
import QueryMethods.Declaration.Grammar.Fault

/-!
# Reading code

A reader takes lexemes from the front of the innermost group around them, or says why it cannot.
What it leaves before a closing bracket is noted, and makes the code faulty in the end.
-/

namespace QueryMethods

structure ReadState where
  /-- What is still to be read of the innermost group. -/
  rest : List Lexeme
  /-- The first bracket before which something was left. -/
  leftover : Option Char := none

abbrev CodeReader := StateT ReadState (Except SyntaxFault)

namespace CodeReader

variable {α : Type}

def ahead : CodeReader (List Lexeme) := do
  return (← get).rest

def atEnd : CodeReader Bool := do
  return (← ahead).isEmpty

def sees (cue : Cue) : CodeReader Bool := do
  return cue.holds (← ahead)

def seesSecond (cue : Cue) : CodeReader Bool := do
  return cue.holds (Lexeme.afterTree (← ahead))

def seesThird (cue : Cue) : CodeReader Bool := do
  return cue.holds (Lexeme.afterTree (Lexeme.afterTree (← ahead)))

def seesAny (cues : List Cue) : CodeReader Bool := do
  return cues.any (·.holds (← ahead))

/-- Runs a reader without taking anything. -/
def glance (reader : CodeReader α) : CodeReader (Option α) := fun state =>
  match reader state with
  | .ok (found, _) => .ok (some found, state)
  | .error _ => .ok (none, state)

/-- Takes nothing if the reader fails. -/
def attempt (reader : CodeReader α) : CodeReader (Option α) := fun state =>
  match reader state with
  | .ok (found, after) => .ok (some found, after)
  | .error _ => .ok (none, state)

def expected (things : List String) : CodeReader α := do
  throw (.expected (← atEnd) things)

/-- None of some cues holds. -/
def expectedOneOf (cues : List Cue) : CodeReader α := do
  let rest ← ahead
  expected ((cues.filter (!·.holds rest)).map (·.label))

def take (count : Nat) : CodeReader Code := do
  let rest ← ahead
  modify fun state => { state with rest := rest.drop count }
  return (rest.take count).map (·.token)

/-- A keyword, or marks that follow each other at once. -/
def expect (text : String) : CodeReader Code := do
  if ← sees text then take (if Cue.isKeyword text then 1 else text.length)
  else if Cue.isKeyword text then expected ["`" ++ text ++ "`"]
  else throw (.missingMark text)

def maybe (text : String) : CodeReader Code := do
  if ← sees text then expect text else return []

/-- An identifier, keywords included. -/
def word : CodeReader String := do
  match ← ahead with
  | ⟨.word text, _⟩ :: _ =>
      discard (take 1)
      return text
  | _ => expected [Cue.word.label]

/-- An identifier that may be a name. -/
def name : CodeReader String := do
  match ← ahead with
  | ⟨.word text, _⟩ :: _ => if isName text then word else throw (.reservedWord text)
  | _ => expected [Cue.name.label]

def nameCode : CodeReader Code := do
  return [.word (← name)]

def wordCode : CodeReader Code := do
  return [.word (← word)]

def lifetime : CodeReader Code := do
  if ← sees .lifetime then take 2 else expected [Cue.lifetime.label]

def literal : CodeReader Code := do
  if ← sees .literal then take (if ← sees "-" then 2 else 1) else expected [Cue.literal.label]

def within (opening : Char) (inner : CodeReader α) : CodeReader α := do
  let before ← get
  let cue : Cue := String.singleton opening
  if !cue.holds before.rest then
    expected [cue.label]
  let length := Lexeme.groupLength 0 before.rest
  set { before with rest := ((before.rest.take length).drop 1).dropLast }
  let found ← inner
  let after ← get
  let left := if after.rest.isEmpty then none else Lexeme.closing? opening
  set { rest := before.rest.drop length, leftover := after.leftover.or left : ReadState }
  return found

def enclosed (opening : Char) (inner : CodeReader Code) : CodeReader Code := do
  let code ← within opening inner
  return .mark opening :: code ++ (Lexeme.closing? opening).toList.map .mark

def anyGroup : CodeReader Code := do
  if ← seesAny ["(", "[", "\x7b"] then take (Lexeme.groupLength 0 (← ahead))
  else expected ["delimiter"]

/-- The tokens that a reader takes, as they stand, beside what it finds. -/
def spelled (reader : CodeReader α) : CodeReader (α × Code) := do
  let before ← ahead
  let found ← reader
  let after ← ahead
  return (found, (before.take (before.length - after.length)).map (·.token))

/-- A bound on the number of parts that are still to come, each of one lexeme at least. -/
def budget : CodeReader Nat := do
  return (← ahead).length + 1

def partsUpTo (part : CodeReader (Option α)) : Nat → CodeReader (List α)
  | 0 => return []
  | fuel + 1 => do
      match ← part with
      | some first => return first :: (← partsUpTo part fuel)
      | none => return []

/-- The parts up to where there are no more. -/
def parts (part : CodeReader (Option α)) : CodeReader (List α) := do
  partsUpTo part (← budget)

def codeWhile (condition : CodeReader Bool) (part : CodeReader Code) : CodeReader Code := do
  let found ← parts do
    if ← condition then return some (← part) else return none
  return found.flatten

/-- Parts with a mark between any two of them, each with its answer to whether the mark follows.
After a part, `goesOn` tells whether the mark has to come. -/
def seriesUpTo (mark : String) (ended goesOn : CodeReader Bool) (part : CodeReader α) :
    Nat → CodeReader (List (α × Bool))
  | 0 => return []
  | fuel + 1 => do
      if ← ended then
        return []
      let first ← part
      if !(← goesOn) then
        return [(first, false)]
      discard (expect mark)
      return (first, true) :: (← seriesUpTo mark ended goesOn part fuel)

/-- Parts up to where `ended` holds; between any two the mark has to stand. -/
def series (mark : String) (ended : CodeReader Bool) (part : CodeReader α) :
    CodeReader (List (α × Bool)) := do
  seriesUpTo mark ended (do return !(← ended)) part (← budget)

/-- Parts for as long as the mark follows, which may stand before the end. -/
def chain (mark : String) (ended : CodeReader Bool) (part : CodeReader α) :
    CodeReader (List (α × Bool)) := do
  seriesUpTo mark ended (sees mark) part (← budget)

/-- The code of parts and of the marks behind them. -/
def seriesCode (mark : String) (found : List (Code × Bool)) : Code :=
  found.flatMap fun (code, marked) => code ++ if marked then mark.toList.map .mark else []

/-- Parts with commas between them up to the end of the group. -/
def commaCode (part : CodeReader Code) : CodeReader Code := do
  return seriesCode "," (← series "," atEnd part)

end CodeReader

end QueryMethods
