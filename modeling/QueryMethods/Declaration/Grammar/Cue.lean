import QueryMethods.Declaration.Identifier
import QueryMethods.Declaration.Lexeme.Basic

/-!
# Cues

A reader chooses its way by what comes next. A cue is a test of the lexemes ahead, with the name
that messages give to what it looks for. Every text of punctuation is a cue, every keyword, and
every opening bracket.
-/

namespace QueryMethods

structure Cue where
  label : String
  holds : List Lexeme → Bool

namespace Cue

/-- Marks, one right after the other. -/
def opensWith : List Char → List Lexeme → Bool
  | [], _ => true
  | [c], ⟨token, _⟩ :: _ => token == .mark c
  | c :: marks, ⟨token, joint⟩ :: rest => token == .mark c && joint && opensWith marks rest
  | _, [] => false

def isKeyword (text : String) : Bool :=
  text.toList.all isNameChar

def ofText (text : String) : Cue :=
  match text with
  | "(" => ⟨"parentheses", opensWith ['(']⟩
  | "[" => ⟨"square brackets", opensWith ['[']⟩
  | "\x7b" => ⟨"curly braces", opensWith [Char.ofNat 0x7b]⟩
  | _ => {
      label := "`" ++ text ++ "`"
      holds := fun ahead =>
        if isKeyword text then ahead.head?.any (·.token == .word text)
        else opensWith text.toList ahead }

instance : Coe String Cue := ⟨ofText⟩

/-- An identifier that may be a name. -/
def name : Cue where
  label := "identifier"
  holds
    | ⟨.word text, _⟩ :: _ => isName text
    | _ => false

/-- Any identifier, keywords included. -/
def word : Cue where
  label := "ident"
  holds
    | ⟨.word _, _⟩ :: _ => true
    | _ => false

/-- A lifetime is an apostrophe with a word after it. -/
def lifetime : Cue where
  label := "lifetime"
  holds
    | ⟨.mark '\'', _⟩ :: ⟨.word _, _⟩ :: _ => true
    | _ => false

def string : Cue where
  label := "string literal"
  holds
    | ⟨.literal _, _⟩ :: _ => true
    | _ => false

def isNumber (spelling : String) : Bool :=
  spelling.toList.head?.any Char.isDigit

/-- A literal; a number may have a minus sign. -/
def literal : Cue where
  label := "literal"
  holds
    | ⟨.literal _, _⟩ :: _ => true
    | ⟨.constant _, _⟩ :: _ => true
    | ⟨.word text, _⟩ :: _ => text == "true" || text == "false"
    | ⟨.mark '-', _⟩ :: ⟨.constant text, _⟩ :: _ => isNumber text
    | _ => false

end Cue

namespace Lexeme

/-- A group from its opening bracket to the bracket that closes it. -/
def groupLength : (depth : Nat) → List Lexeme → Nat
  | _, [] => 0
  | depth, ⟨token, _⟩ :: rest =>
      match token with
      | .mark c =>
          if (closing? c).isSome then groupLength (depth + 1) rest + 1
          else if !isBracket c then groupLength depth rest + 1
          else if depth ≤ 1 then 1
          else groupLength (depth - 1) rest + 1
      | _ => groupLength depth rest + 1

/-- What comes after one token, where a group counts as one, and so does a lifetime. -/
def afterTree : List Lexeme → List Lexeme
  | [] => []
  | first :: rest =>
      if Cue.lifetime.holds (first :: rest) then rest.drop 1
      else match first.token with
        | .mark c =>
            if (closing? c).isSome then (first :: rest).drop (groupLength 0 (first :: rest))
            else rest
        | _ => rest

end Lexeme

end QueryMethods
