import QueryMethods.Text.Quoted

/-!
# Source code

Code is a list of tokens. It is printed with one space between any two of them, where every
punctuation character is a token of its own.
-/

namespace QueryMethods

inductive Token where
  /-- An identifier or a keyword. -/
  | word (text : String)
  | mark (c : Char)
  /-- A string literal, by its value. -/
  | literal (text : String)
  /-- Any other literal, by its spelling. -/
  | constant (text : String)
deriving DecidableEq

abbrev Code := List Token

def Token.print : Token → String
  | .word text => text
  | .mark c => String.singleton c
  | .literal text => quoted text
  | .constant text => text

def Code.print (code : Code) : String :=
  " ".intercalate (code.map Token.print)

/-- A character of an identifier or a number; letters of every script count. -/
def isNameChar (c : Char) : Bool :=
  c.isAlphanum || c == '_' || decide (128 ≤ c.toNat)

/-- The tokens of code without string literals. The mark of a raw identifier belongs to its word. -/
def Code.ofChars : List Char → Code
  | [] => []
  | c :: rest =>
      let tokens := ofChars rest
      if isNameChar c then
        match rest, tokens with
        | next :: _, .word text :: others =>
            if isNameChar next then .word (String.singleton c ++ text) :: others
            else .word (String.singleton c) :: tokens
        | '#' :: next :: _, .mark _ :: .word text :: others =>
            if c = 'r' ∧ isNameChar next then .word ("r#" ++ text) :: others
            else .word (String.singleton c) :: tokens
        | _, _ => .word (String.singleton c) :: tokens
      else if c.isWhitespace then
        tokens
      else
        .mark c :: tokens

/-- The tokens of code without string literals. -/
def code (text : String) : Code :=
  Code.ofChars text.toList

def inBraces (body : Code) : Code :=
  .mark '{' :: body ++ [.mark '}']

def inParens (body : Code) : Code :=
  .mark '(' :: body ++ [.mark ')']

def inBrackets (body : Code) : Code :=
  .mark '[' :: body ++ [.mark ']']

def inAngles (body : Code) : Code :=
  .mark '<' :: body ++ [.mark '>']

/-- Parts with the same code between any two of them. -/
def separatedBy (separator : Code) : List Code → Code
  | [] => []
  | [part] => part
  | part :: rest => part ++ separator ++ separatedBy separator rest

def commaSeparated (parts : List Code) : Code :=
  separatedBy [.mark ','] parts

end QueryMethods
