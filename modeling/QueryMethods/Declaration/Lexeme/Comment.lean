import QueryMethods.Declaration.Lexeme.Basic
import QueryMethods.Text.Range

/-!
# Blanks and comments

Blanks and comments stand between lexemes. A comment that documents what is around it is an
attribute, whose value is the text of the comment.
-/

namespace QueryMethods.Lexeme

/-- White space, and the two marks of the direction of writing. -/
def isSpace (c : Char) : Bool :=
  inRanges [(0x9, 0xd), (0x20, 0x20), (0x85, 0x85), (0xa0, 0xa0), (0x1680, 0x1680),
    (0x2000, 0x200a), (0x200e, 0x200f), (0x2028, 0x2029), (0x202f, 0x202f), (0x205f, 0x205f),
    (0x3000, 0x3000)] c

/-- The text after a comment that has `depth` comments open around it. -/
def afterComment? : Nat → List Char → Option (List Char)
  | depth, '/' :: '*' :: rest => afterComment? (depth + 1) rest
  | 0, '*' :: '/' :: rest => some rest
  | depth + 1, '*' :: '/' :: rest => afterComment? depth rest
  | depth, _ :: rest => afterComment? depth rest
  | _, [] => none

/-- Whether a comment documents something, by the text after its two opening characters, the second
of which is `c`. -/
def isDocumenting (c : Char) : List Char → Bool
  | '!' :: _ => true
  | [next] => next == c
  | next :: after :: _ => next == c && after != c
  | [] => false

/-- The text after the comment that a text opens with, if it documents nothing. -/
def comment? : List Char → Option (List Char)
  | '/' :: '/' :: rest =>
      if isDocumenting '/' rest then none else some (rest.dropWhile (· != '\n'))
  | '/' :: '*' :: '*' :: '/' :: rest => some rest
  | '/' :: '*' :: rest => if isDocumenting '*' rest then none else afterComment? 0 rest
  | _ => none

/-- A carriage return that no line feed follows. -/
def hasBareReturn : List Char → Bool
  | '\r' :: '\n' :: rest => hasBareReturn rest
  | '\r' :: _ => true
  | _ :: rest => hasBareReturn rest
  | [] => false

/-- The characters of a text before what is left of it. -/
def charsBefore (text after : List Char) : List Char :=
  text.take (text.length - after.length)

/-- The text of a documenting comment after its opening, and the text after the comment. -/
def documented? (c : Char) (rest : List Char) : Option (List Char × List Char) :=
  if c = '/' then
    let line := rest.takeWhile (· != '\n')
    let after := rest.dropWhile (· != '\n')
    if line.getLast? = some '\r' ∧ !after.isEmpty then some (line.dropLast, after)
    else some (line, after)
  else
    (afterComment? 0 rest).map fun after => ((charsBefore rest after).dropLast.dropLast, after)

/-- The attribute that a text documents what it belongs to with. -/
def documentation (isInner : Bool) (text : List Char) : List Lexeme :=
  let bang := if isInner then [.mark '!'] else []
  let tokens : Code := .mark '#' :: bang ++
    inBrackets [.word "doc", .mark '=', .literal (String.ofList text)]
  tokens.map (⟨·, false⟩)

/-- The lexemes of a documenting comment. -/
def documentation? : List Char → Option (List Lexeme × List Char)
  | '/' :: c :: kind :: rest =>
      if (c = '/' ∨ c = '*') ∧ isDocumenting c (kind :: rest) then
        (documented? c rest).bind fun (text, after) =>
          if hasBareReturn text then none else some (documentation (kind == '!') text, after)
      else
        none
  | _ => none

end QueryMethods.Lexeme
