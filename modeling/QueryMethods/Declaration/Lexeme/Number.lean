import QueryMethods.Declaration.Lexeme.Quoted

/-!
# Numbers

A number is whole, or it has a point or an exponent. The spelling of a whole number gives its value,
and what is behind the digits is its suffix.
-/

namespace QueryMethods.Lexeme

def isDecimal (c : Char) : Bool :=
  c.isDigit || c == '_'

/-- The text after the digits of an exponent. -/
def exponent? (signed valued : Bool) : List Char → Option (List Char)
  | [] => if valued then some [] else none
  | c :: rest =>
      if c.isDigit then exponent? signed true rest
      else if c = '_' then exponent? signed valued rest
      else if (c = '+' ∨ c = '-') ∧ !valued ∧ !signed then exponent? true valued rest
      else if valued ∧ !((c = '+' ∨ c = '-') ∧ !valued) then some (c :: rest)
      else none

/-- The text after a point and the digits behind it; the point belongs to the number unless another
one or a name follows. -/
def afterPoint? : List Char → Option (List Char)
  | '.' :: rest =>
      match rest with
      | c :: _ => if c = '.' ∨ NameChar.isStart c then none else some (rest.dropWhile isDecimal)
      | [] => some []
  | _ => none

/-- The text after a number with a point or an exponent. -/
def float? (text : List Char) : Option (List Char) :=
  let whole := text.dropWhile isDecimal
  let point := afterPoint? whole
  let before := point.getD whole
  match before with
  | e :: rest =>
      if e = 'e' ∨ e = 'E' then
        (exponent? false false rest).or point
      else
        point
  | [] => point

/-- The base of a whole number and the text of its digits. -/
def baseOf : List Char → Nat × List Char
  | '0' :: 'x' :: rest => (16, rest)
  | '0' :: 'o' :: rest => (8, rest)
  | '0' :: 'b' :: rest => (2, rest)
  | text => (10, text)

def isDigitOf (base : Nat) (c : Char) : Bool :=
  c == '_' || (hexDigit? c).any fun digit => decide (digit < base)

/-- The text after a whole number, whose digits are of the base that its opening names. -/
def integer? (text : List Char) : Option (List Char) :=
  let (base, digits) := baseOf text
  let after := digits.dropWhile (isDigitOf base)
  if (digits.takeWhile (isDigitOf base)).all (· == '_') || after.head?.any Char.isDigit then none
  else some after

def number? (text : List Char) : Option (Lexeme × List Char) :=
  if !text.head?.any Char.isDigit then none
  else
    let ended (after : List Char) : Option (List Char) :=
      let after := afterSuffix after
      if after.head?.any NameChar.isContinuing then none else some after
    (((float? text).bind ended).or ((integer? text).bind ended)).map (constantUpTo text)

/-- Whether the spelling of a number has a point or an exponent. -/
def isFloat (spelling : List Char) : Bool :=
  let (base, digits) := baseOf spelling
  base == 10 && match digits.dropWhile isDecimal with
    | '.' :: _ => true
    | e :: rest =>
        (e == 'e' || e == 'E') &&
          (rest.dropWhile (· == '_')).head?.any fun c => c.isDigit || c == '+' || c == '-'
    | [] => false

/-- The value and the suffix of a whole number. -/
def wholeValue (spelling : List Char) : Nat × List Char :=
  let (base, digits) := baseOf spelling
  let value := (digits.takeWhile (isDigitOf base)).foldl
    (fun total c => match hexDigit? c with
      | some digit => base * total + digit
      | none => total) 0
  (value, digits.dropWhile (isDigitOf base))

end QueryMethods.Lexeme
