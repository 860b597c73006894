import QueryMethods.Text.Ascii
import QueryMethods.Value.Type

/-!
# Pieces of a template

A template is SQL with placeholders in braces. Comments are skipped, a brace is written by doubling
it, and inside a literal a placeholder must fill the literal, whose quotes then go with it.
-/

namespace QueryMethods

/-- Why a template cannot be bound. -/
inductive TemplateFault where
  | unterminated (offset : Nat)
  | invalidName (name : String)
  | insideLiteral (name : String)
  | unknownPlaceholder (name : String)
  | typeMismatch (param column : String) (paramType columnType : ValueType)
deriving DecidableEq

namespace TemplateFault

def braced (name : String) : String :=
  "`\x7b" ++ name ++ "\x7d`"

def message : TemplateFault → String
  | .unterminated offset => "unterminated placeholder at byte " ++ toString offset
  | .invalidName name => "invalid placeholder " ++ braced name
  | .insideLiteral name => "placeholder " ++ braced name ++ " is embedded in a string literal"
  | .unknownPlaceholder name => "placeholder " ++ braced name ++ " has no matching parameter"
  | .typeMismatch param column paramType columnType =>
      "parameter `" ++ param ++ "` of type " ++ paramType.name ++
        " cannot be bound to column `" ++ column ++ "` of type " ++ columnType.name

end TemplateFault

inductive Piece where
  /-- A character outside comments and single-quoted literals. -/
  | code (c : Char)
  /-- A character of a comment, or inside a single-quoted literal. -/
  | hidden (c : Char)
  /-- A brace that the template writes twice. -/
  | brace (c : Char)
  /-- A placeholder, with the quotes around it if it fills a literal. -/
  | placeholder (name : String) (quote : Option Char)
deriving DecidableEq

/-- How a placeholder stands to the quotes around it. -/
inductive Enclosure where
  | bare
  | opened (quote : Char)
  | embedded
deriving DecidableEq

/-- What the characters read so far have left open. -/
inductive Region where
  | code
  | literal (quote : Char)
  | lineComment
  | blockComment
  | name (start : Nat) (enclosure : Enclosure) (reversed : List Char)
deriving DecidableEq

def isQuote (c : Char) : Bool :=
  c == '\'' || c == '"'

/-- Text that opens a placeholder: a brace that the next character does not double. -/
def opensPlaceholder : List Char → Bool
  | '{' :: '{' :: _ => false
  | '{' :: _ => true
  | _ => false

/-- A character of a literal is hidden between single quotes and visible between double ones. -/
def literalPiece (quote c : Char) : Piece :=
  if quote == '\'' && c != quote then .hidden c else .code c

/-- Cuts a template into pieces; `offset` is the place of the text, in bytes. -/
def scan : Region → Nat → List Char → Except TemplateFault (List Piece)
  | .name start _ _, _, [] => .error (.unterminated start)
  | .name start enclosure reversed, offset, c :: rest =>
      if c = '}' then
        let name := String.ofList reversed.reverse
        if isIdentifier reversed.reverse then
          match enclosure, rest with
          | .bare, rest =>
              (scan .code (offset + 1) rest).map (.placeholder name none :: ·)
          | .opened quote, close :: rest =>
              if close = quote then
                (scan .code (offset + 2) rest).map (.placeholder name (some quote) :: ·)
              else
                .error (.insideLiteral name)
          | _, _ => .error (.insideLiteral name)
        else
          .error (.invalidName name)
      else
        scan (.name start enclosure (c :: reversed)) (offset + c.utf8Size) rest
  | _, _, [] => .ok []
  | .lineComment, offset, c :: rest =>
      if c = '\n' then
        (scan .code (offset + 1) rest).map (.code c :: ·)
      else
        (scan .lineComment (offset + c.utf8Size) rest).map (.hidden c :: ·)
  | .blockComment, offset, '*' :: '/' :: rest =>
      (scan .code (offset + 2) rest).map ([.hidden '*', .hidden '/'] ++ ·)
  | .blockComment, offset, c :: rest =>
      (scan .blockComment (offset + c.utf8Size) rest).map (.hidden c :: ·)
  | .literal quote, offset, '{' :: '{' :: rest =>
      (scan (.literal quote) (offset + 2) rest).map (.brace '{' :: ·)
  | .literal quote, offset, '}' :: '}' :: rest =>
      (scan (.literal quote) (offset + 2) rest).map (.brace '}' :: ·)
  | .literal quote, offset, c :: rest =>
      if c = '{' then
        scan (.name offset .embedded []) (offset + 1) rest
      else
        (scan (if c = quote then .code else .literal quote) (offset + c.utf8Size) rest).map
          (literalPiece quote c :: ·)
  | .code, offset, '{' :: '{' :: rest =>
      (scan .code (offset + 2) rest).map (.brace '{' :: ·)
  | .code, offset, '}' :: '}' :: rest =>
      (scan .code (offset + 2) rest).map (.brace '}' :: ·)
  | .code, offset, '-' :: '-' :: rest =>
      (scan .lineComment (offset + 2) rest).map ([.hidden '-', .hidden '-'] ++ ·)
  | .code, offset, '/' :: '*' :: rest =>
      (scan .blockComment (offset + 2) rest).map ([.hidden '/', .hidden '*'] ++ ·)
  | .code, offset, c :: rest =>
      if c = '{' then
        scan (.name offset .bare []) (offset + 1) rest
      else if isQuote c then
        match rest with
        | brace :: after =>
            if opensPlaceholder (brace :: after) then
              scan (.name (offset + 1) (.opened c) []) (offset + 2) after
            else
              (scan (.literal c) (offset + 1) (brace :: after)).map (.code c :: ·)
        | [] => .ok [.code c]
      else
        (scan .code (offset + c.utf8Size) rest).map (.code c :: ·)

/-- The pieces of a whole template. -/
def piecesOf (template : List Char) : Except TemplateFault (List Piece) :=
  scan .code 0 template

/-- The text of a piece in the template. -/
def Piece.source : Piece → List Char
  | .code c | .hidden c => [c]
  | .brace c => [c, c]
  | .placeholder name none => '{' :: name.toList ++ ['}']
  | .placeholder name (some quote) => quote :: '{' :: name.toList ++ ['}', quote]

/-- The placeholders among pieces, from left to right. -/
def placeholders : List Piece → List String
  | [] => []
  | .placeholder name _ :: rest => name :: placeholders rest
  | _ :: rest => placeholders rest

end QueryMethods
