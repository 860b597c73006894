import QueryMethods.Template.Mask

/-!
# Columns behind placeholders

A placeholder is meant for a column if it is the right side of a comparison with that column, or if
it stands alone as the value of that column in an `INSERT`.
-/

namespace QueryMethods

/-- The column reference that a text ends with, less its qualifier and double quotes. The text is
given from its end. -/
def columnAtEnd? (reversed : List Char) : Option String :=
  let reference := reversed.takeWhile fun c => isWordChar c || c == '.' || c == '"'
  let name := (reference.takeWhile (· != '.')).filter (· != '"')
  if name.isEmpty then none else some (String.ofList name.reverse)

/-- What a text leaves without the comparison operator that it ends with. The text is given from
its end. -/
def dropOperator? : List Char → Option (List Char)
  | '>' :: '<' :: rest => some rest
  | '=' :: '!' :: rest => some rest
  | '=' :: '<' :: rest => some rest
  | '=' :: '>' :: rest => some rest
  | '=' :: rest => some rest
  | '<' :: rest => some rest
  | '>' :: rest => some rest
  | reversed =>
      let word := (reversed.takeWhile isWordChar).reverse
      if isKeyword "like" word || isKeyword "ilike" word then
        some (reversed.dropWhile isWordChar)
      else
        none

/-- The column that is compared with what follows a text. The text is given from its end. -/
def comparedColumn? (reversed : List Char) : Option String :=
  (dropOperator? (reversed.dropWhile isBlank)).bind fun rest =>
    columnAtEnd? (rest.dropWhile isBlank)

/-- The compared column of every placeholder, where `reversed` is the text on the left, from its
end. -/
def comparedColumns (reversed : List Char) : List Cell → List (Option String)
  | [] => []
  | .text c :: rest => comparedColumns (c :: reversed) rest
  | .slot number :: rest =>
      comparedColumn? reversed :: comparedColumns ((Cell.slot number).char :: reversed) rest

/-- The word that cells open with. -/
def leadingWord (cells : List Cell) : List Char :=
  visible (cells.takeWhile (isWordChar ·.char))

/-- The cells from a whole word on, in any ASCII case. -/
def fromWord? (keyword : String) (afterWord : Bool) : List Cell → Option (List Cell)
  | [] => none
  | cell :: rest =>
      if !afterWord && isKeyword keyword (leadingWord (cell :: rest)) then
        some (cell :: rest)
      else
        fromWord? keyword (isWordChar cell.char) rest

/-- The cells up to the parenthesis that closes `depth` open ones and one more, and the cells
after it. -/
def splitAtClose? : Nat → List Cell → Option (List Cell × List Cell)
  | _, [] => none
  | depth, cell :: rest =>
      if cell.char = ')' then
        match depth with
        | 0 => some ([], rest)
        | depth + 1 => (splitAtClose? depth rest).map fun (inside, after) => (cell :: inside, after)
      else
        (splitAtClose? (if cell.char = '(' then depth + 1 else depth) rest).map
          fun (inside, after) => (cell :: inside, after)

/-- The cells inside the first parentheses, and the cells after them. -/
def parenthesized? (cells : List Cell) : Option (List Cell × List Cell) :=
  match cells.dropWhile (·.char != '(') with
  | [] => none
  | _ :: rest => splitAtClose? 0 rest

/-- The parts between the commas that no parentheses enclose. -/
def splitCommas : Nat → List Cell → List (List Cell)
  | _, [] => [[]]
  | depth, cell :: rest =>
      if cell.char = ',' ∧ depth = 0 then
        [] :: splitCommas 0 rest
      else
        let inner :=
          if cell.char = '(' then depth + 1 else if cell.char = ')' then depth - 1 else depth
        match splitCommas inner rest with
        | part :: parts => (cell :: part) :: parts
        | [] => [[cell]]

def Cell.slot? : Cell → Option Nat
  | .text _ => none
  | .slot number => some number

/-- The first placeholder of a value that holds placeholders and blanks alone. -/
def loneSlot? (value : List Cell) : Option Nat :=
  if value.all (isBlank ·.char) then value.findSome? Cell.slot? else none

/-- The placeholders that stand alone as values of the first row of an `INSERT`, and the columns
they stand for. -/
def insertedColumns (cells : List Cell) : List (Nat × String) :=
  let found := do
    let insert ← fromWord? "insert" false cells
    let (columns, afterColumns) ← parenthesized? insert
    let values ← fromWord? "values" false afterColumns
    let (row, _) ← parenthesized? values
    some ((splitCommas 0 columns).zip (splitCommas 0 row))
  (found.getD []).filterMap fun (column, value) => do
    let number ← loneSlot? value
    let name ← columnAtEnd? ((visible column).reverse.dropWhile isBlank)
    some (number, name)

/-- The column that every placeholder is meant for; an `INSERT` decides before a comparison. -/
def targetColumns (cells : List Cell) : List (Option String) :=
  let inserted := insertedColumns cells
  (comparedColumns [] cells).mapIdx fun number compared => (inserted.lookup number).or compared

end QueryMethods
