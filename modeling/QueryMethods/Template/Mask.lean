import QueryMethods.Template.Piece

/-!
# What a template shows

The checks on a template look at its code alone: comments, literals, doubled braces and placeholders
show as blanks.
-/

namespace QueryMethods

/-- One place of a masked template. -/
inductive Cell where
  | text (c : Char)
  /-- The placeholder of that number, from the left. -/
  | slot (number : Nat)
deriving DecidableEq

def Cell.char : Cell → Char
  | .text c => c
  | .slot _ => ' '

/-- The cells of pieces, whose first placeholder has the given number. -/
def maskFrom : Nat → List Piece → List Cell
  | _, [] => []
  | number, .code c :: rest => .text c :: maskFrom number rest
  | number, .hidden _ :: rest => .text ' ' :: maskFrom number rest
  | number, .brace _ :: rest => .text ' ' :: maskFrom number rest
  | number, .placeholder _ _ :: rest => .slot number :: maskFrom (number + 1) rest

def mask (pieces : List Piece) : List Cell :=
  maskFrom 0 pieces

/-- The text that cells show. -/
def visible (cells : List Cell) : List Char :=
  cells.map Cell.char

/-- The longest runs of word characters, from left to right. -/
def words : List Char → List (List Char)
  | [] => []
  | c :: rest =>
      if isWordChar c then
        match rest, words rest with
        | next :: _, word :: others =>
            if isWordChar next then (c :: word) :: others else [c] :: word :: others
        | _, others => [c] :: others
      else
        words rest

/-- The first words of statements that produce rows. -/
def rowKeywords : List String :=
  ["select", "with", "values", "show", "explain", "table"]

def isKeyword (keyword : String) (word : List Char) : Bool :=
  foldCase word == keyword.toList

/-- A statement produces rows if it opens with such a word, or says `RETURNING` later on. -/
def producesRows (text : List Char) : Bool :=
  match words text with
  | [] => false
  | first :: rest =>
      rowKeywords.any (isKeyword · first) || rest.any (isKeyword "returning")

end QueryMethods
