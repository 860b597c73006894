import QueryMethods.Declaration.Lexeme.Comment
import QueryMethods.Text.Ascii
import QueryMethods.Text.Search

/-!
# Quoted literals

A string literal counts by its value, and all other literals in quotes by their spelling. What may
stand between the quotes depends on what the literal is made of.
-/

namespace QueryMethods.Lexeme

/-- What a literal in quotes is made of. -/
inductive QuotedKind where
  | characters
  /-- Bytes; only those of ASCII stand for themselves. -/
  | bytes
  /-- Characters up to a NUL that is not written. -/
  | terminated
deriving DecidableEq

namespace QuotedKind

/-- The characters that stand for themselves. -/
def admits (kind : QuotedKind) (c : Char) : Bool :=
  match kind with
  | .characters => true
  | .bytes => decide (c.toNat < 128)
  | .terminated => c != Char.ofNat 0

/-- The numbers that two hexadecimal digits may give. -/
def admitsByte (kind : QuotedKind) (byte : Nat) : Bool :=
  match kind with
  | .characters => decide (byte < 128)
  | .bytes => true
  | .terminated => byte != 0

end QuotedKind

/-- The character of a code in braces, of which `count` digits came before. -/
def codeEscape? : Nat → Nat → List Char → Option (Char × List Char)
  | _, _, [] => none
  | code, count, c :: rest =>
      match hexDigit? c with
      | some digit => if count < 6 then codeEscape? (16 * code + digit) (count + 1) rest else none
      | none =>
          if count = 0 then none
          else if c = '_' then codeEscape? code count rest
          else if c = '}' ∧ code.isValidChar then some (Char.ofNat code, rest)
          else none

/-- What stands after a backslash. -/
def escape? (kind : QuotedKind) : List Char → Option (Char × List Char)
  | 'n' :: rest => some ('\n', rest)
  | 'r' :: rest => some ('\r', rest)
  | 't' :: rest => some ('\t', rest)
  | '\\' :: rest => some ('\\', rest)
  | '\'' :: rest => some ('\'', rest)
  | '"' :: rest => some ('"', rest)
  | '0' :: rest => if kind = .terminated then none else some (Char.ofNat 0, rest)
  | 'u' :: '{' :: rest =>
      if kind = .bytes then none else (codeEscape? 0 0 rest).filter (kind.admits ·.1)
  | 'x' :: high :: low :: rest => do
      let byte := 16 * (← hexDigit? high) + (← hexDigit? low)
      if kind.admitsByte byte then some (Char.ofNat byte, rest) else none
  | _ => none

/-- The text after the blanks that a backslash at the end of a line skips. -/
def afterBlanks? : List Char → Option (List Char)
  | ' ' :: rest => afterBlanks? rest
  | '\t' :: rest => afterBlanks? rest
  | '\n' :: rest => afterBlanks? rest
  | '\r' :: '\n' :: rest => afterBlanks? rest
  | '\r' :: _ => none
  | rest => some rest

/-- The value of a literal after its opening quote, and the text after it. -/
def quotedBody? (kind : QuotedKind) : Nat → List Char → Option (List Char × List Char)
  | 0, _ => none
  | _ + 1, '"' :: rest => some ([], rest)
  | fuel + 1, '\\' :: '\n' :: rest => (afterBlanks? rest).bind (quotedBody? kind fuel)
  | fuel + 1, '\\' :: '\r' :: '\n' :: rest => (afterBlanks? rest).bind (quotedBody? kind fuel)
  | fuel + 1, '\\' :: rest =>
      (escape? kind rest).bind fun (c, after) =>
        (quotedBody? kind fuel after).map fun (value, final) => (c :: value, final)
  | fuel + 1, '\r' :: '\n' :: rest =>
      (quotedBody? kind fuel rest).map fun (value, final) => ('\n' :: value, final)
  | _ + 1, '\r' :: _ => none
  | fuel + 1, c :: rest =>
      if kind.admits c then
        (quotedBody? kind fuel rest).map fun (value, final) => (c :: value, final)
      else
        none
  | _ + 1, [] => none

/-- A literal without escapes: as many number signs around its quotes behind as before, and at most
255 of them. -/
def rawBody? (kind : QuotedKind) (text : List Char) : Option (List Char × List Char) :=
  let signs := text.takeWhile (· == '#')
  match text.dropWhile (· == '#') with
  | '"' :: rest =>
      if signs.length ≤ 255 then
        (cutAt? ('"' :: signs) rest).filter fun (value, _) =>
          value.all kind.admits && !hasBareReturn value
      else
        none
  | _ => none

/-- One character between apostrophes, after the first of them. -/
def charBody? (kind : QuotedKind) : List Char → Option (List Char)
  | '\\' :: rest =>
      match escape? kind rest with
      | some (_, '\'' :: after) => some after
      | _ => none
  | c :: '\'' :: rest => if kind.admits c then some rest else none
  | _ => none

/-- A suffix is part of its literal. -/
def afterSuffix (text : List Char) : List Char :=
  match identifier? text with
  | some (_, after) => after
  | none => text

def constantUpTo (text after : List Char) : Lexeme × List Char :=
  (⟨.constant (String.ofList (charsBefore text after)), false⟩, after)

def string? (text : List Char) : Option (Lexeme × List Char) :=
  let body := match text with
    | '"' :: rest => quotedBody? .characters text.length rest
    | 'r' :: rest => rawBody? .characters rest
    | _ => none
  body.map fun (value, after) =>
    let final := afterSuffix after
    (⟨.literal (String.ofList value), final.length != after.length⟩, final)

/-- Strings of bytes, terminated strings, characters and bytes. -/
def quotedConstant? (text : List Char) : Option (Lexeme × List Char) :=
  let after : Option (List Char) := match text with
    | 'b' :: '"' :: rest => (quotedBody? .bytes text.length rest).map Prod.snd
    | 'c' :: '"' :: rest => (quotedBody? .terminated text.length rest).map Prod.snd
    | 'b' :: 'r' :: rest => (rawBody? .bytes rest).map Prod.snd
    | 'c' :: 'r' :: rest => (rawBody? .terminated rest).map Prod.snd
    | 'b' :: '\'' :: rest => charBody? .bytes rest
    | '\'' :: rest => charBody? .characters rest
    | _ => none
  after.map fun after => constantUpTo text (afterSuffix after)

end QueryMethods.Lexeme
