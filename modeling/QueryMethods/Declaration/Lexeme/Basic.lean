import QueryMethods.Declaration.Token
import QueryMethods.Text.NameChar.Basic

/-!
# Lexemes

Code that is handed over as text is cut into lexemes: tokens that remember what followed them at
once. This module cuts off identifiers and punctuation.
-/

namespace QueryMethods

structure Lexeme where
  token : Token
  /-- Whether this is a punctuation character that another one follows at once, or a string literal
  with a suffix. -/
  joint : Bool := false
deriving DecidableEq

namespace Lexeme

/-- An identifier and the text after it. -/
def identifier? : List Char → Option (List Char × List Char)
  | c :: rest =>
      if NameChar.isStart c then
        some (c :: rest.takeWhile NameChar.isContinuing, rest.dropWhile NameChar.isContinuing)
      else
        none
  | [] => none

/-- The words that cannot be raw. -/
def neverRaw : List String :=
  ["_", "super", "self", "Self", "crate"]

/-- An identifier, perhaps a raw one. -/
def anyIdentifier? : List Char → Option (String × List Char)
  | 'r' :: '#' :: rest =>
      (identifier? rest).bind fun (name, after) =>
        if neverRaw.contains (String.ofList name) then none
        else some (String.ofList ('r' :: '#' :: name), after)
  | text => (identifier? text).map fun (name, after) => (String.ofList name, after)

/-- Openings of literals, which are not taken for identifiers. -/
def literalOpenings : List String :=
  ["r\"", "r#\"", "r##", "b\"", "b'", "br\"", "br#", "c\"", "cr\"", "cr#"]

def word? (text : List Char) : Option (Lexeme × List Char) :=
  if literalOpenings.any (·.toList.isPrefixOf text) then none
  else (anyIdentifier? text).map fun (name, after) => (⟨.word name, false⟩, after)

def isMarkChar (c : Char) : Bool :=
  "~!@#$%^&*-=+|;:,<.>/?'".toList.contains c

/-- Whether a text opens with punctuation; a comment is none. -/
def opensWithMark : List Char → Bool
  | '/' :: '/' :: _ => false
  | '/' :: '*' :: _ => false
  | c :: _ => isMarkChar c
  | [] => false

/-- An apostrophe needs an identifier right after it, which is no character literal. -/
def isLifetime (rest : List Char) : Bool :=
  match anyIdentifier? rest with
  | none => false
  | some (_, '\'' :: _) => false
  | some (_, '#' :: _) => "r#".toList.isPrefixOf rest
  | some _ => true

def mark? (text : List Char) : Option (Lexeme × List Char) :=
  match text with
  | [] => none
  | c :: rest =>
      if !opensWithMark text then none
      else if c = '\'' then
        if isLifetime rest then some (⟨.mark c, true⟩, rest) else none
      else some (⟨.mark c, opensWithMark rest⟩, rest)

def isBracket (c : Char) : Bool :=
  "()[]\x7b\x7d".toList.contains c

/-- The bracket that closes another one. -/
def closing? : Char → Option Char
  | '(' => some ')'
  | '[' => some ']'
  | '{' => some '}'
  | _ => none

end Lexeme

end QueryMethods
