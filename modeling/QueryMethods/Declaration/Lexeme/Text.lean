import QueryMethods.Declaration.Lexeme.Number

/-! The lexemes of a text, whose brackets are closed in order. -/

namespace QueryMethods

namespace Lexeme

/-- The spelling of a literal that stands for one that could not be read. -/
def unreadable : List Char :=
  "(/*ERROR*/)".toList

/-- A literal is tried before punctuation, and punctuation before an identifier. -/
def leaf? (text : List Char) : Option (Lexeme × List Char) :=
  (string? text).or <| (quotedConstant? text).or <| (number? text).or <|
    (mark? text).or (word? text)

/-- The lexemes of a text; each of them takes at least one character. -/
def scan? : Nat → List Char → Option (List Lexeme)
  | _, [] => some []
  | 0, _ => none
  | fuel + 1, c :: rest =>
      if isSpace c then
        scan? fuel rest
      else if unreadable.isPrefixOf (c :: rest) then
        (scan? fuel (rest.drop (unreadable.length - 1))).map
          (⟨.constant (String.ofList unreadable), false⟩ :: ·)
      else if isBracket c then
        (scan? fuel rest).map (⟨.mark c, false⟩ :: ·)
      else
        match comment? (c :: rest) with
        | some after => scan? fuel after
        | none =>
            match documentation? (c :: rest) with
            | some (lexemes, after) => (scan? fuel after).map (lexemes ++ ·)
            | none =>
                (leaf? (c :: rest)).bind fun (lexeme, after) =>
                  (scan? fuel after).map (lexeme :: ·)

/-- Whether brackets are closed in order, where those in `waiting` are still to come. -/
def areNested : List Char → List Lexeme → Bool
  | waiting, [] => waiting.isEmpty
  | waiting, ⟨.mark c, _⟩ :: rest =>
      match closing? c with
      | some close => areNested (close :: waiting) rest
      | none =>
          if c = ')' ∨ c = ']' ∨ c = '}' then
            match waiting with
            | close :: others => c == close && areNested others rest
            | [] => false
          else
            areNested waiting rest
  | waiting, _ :: rest => areNested waiting rest

/-- The lexemes of a text; a byte order mark before it is dropped. -/
def ofText? (text : String) : Option (List Lexeme) :=
  let chars := match text.toList with
    | c :: rest => if c.toNat = 0xfeff then rest else c :: rest
    | [] => []
  (scan? chars.length chars).filter (areNested [])

end Lexeme

/-- The tokens of a text. -/
def Code.ofText? (text : String) : Option Code :=
  (Lexeme.ofText? text).map (·.map Lexeme.token)

end QueryMethods
