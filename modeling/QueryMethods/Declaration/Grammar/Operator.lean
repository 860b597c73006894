import QueryMethods.Declaration.Grammar.Pattern

/-!
# Operators

Binary operators, assignments, ranges and casts by how strongly they bind. Comparisons do not chain,
and a range is no operand on the left.
-/

namespace QueryMethods.Grammar

open CodeReader

/-- The binary operators; a longer one stands before what it begins with. -/
def binaryOperators : List (String × Precedence) :=
  [("+=", .assign), ("-=", .assign), ("*=", .assign), ("/=", .assign), ("%=", .assign),
    ("^=", .assign), ("&=", .assign), ("|=", .assign), ("<<=", .assign), (">>=", .assign),
    ("&&", .and), ("||", .or), ("<<", .shift), (">>", .shift), ("==", .compare), ("<=", .compare),
    ("!=", .compare), (">=", .compare), ("+", .sum), ("-", .sum), ("*", .product),
    ("/", .product), ("%", .product), ("^", .bitXor), ("&", .bitAnd), ("|", .bitOr),
    ("<", .compare), (">", .compare)]

def binaryOperator? : CodeReader (Option (String × Precedence)) := do
  let rest ← ahead
  return binaryOperators.find? fun (text, _) => (Cue.ofText text).holds rest

def seesAssignment : CodeReader Bool := do
  return (← sees "=") && !(← sees "=>")

/-- How strongly the next operator binds; without one, as loosely as can be. -/
def nextPrecedence : CodeReader Precedence := do
  match ← binaryOperator? with
  | some (_, precedence) => return precedence
  | none =>
      if ← seesAssignment then return .assign
      else if ← sees ".." then return .range
      else if ← sees "as" then return .cast
      else return .jump

def endsRange (structs : Bool) : CodeReader Bool := do
  return (← atEnd) || (← sees ".") && !(← sees "..") || !structs && (← sees "\x7b") ||
    (← seesAny [",", ";", "?", "=>", "=", "+", "/", "%", "^", ">", "<=", "!=", "-=", "*=", "&=",
      "|=", "<<=", "as"])

/-- What may not follow a cast, since it binds closer. -/
def castFault? : CodeReader (Option String) := do
  if (← sees ".") && !(← sees "..") then
    if ← seesSecond "await" then return some "`.await`"
    else if (← seesSecond .name) && ((← seesThird "(") || (← seesThird "::")) then
      return some "a method call"
    else return some "a field access"
  else if ← sees "?" then return some "`?`"
  else if ← sees "[" then return some "indexing"
  else if ← sees "(" then return some "a function call"
  else return none

variable (deeper : Grammar)

/-- The operand on the right of an operator, with all operators that bind closer. -/
def rightOperand (structs : Bool) (precedence : Precedence) : CodeReader ExprCode := do
  extend (← deeper.operand structs) (← budget)
where
  extend (operand : ExprCode) : Nat → CodeReader ExprCode
    | 0 => return operand
    | fuel + 1 => do
        let next ← nextPrecedence
        if precedence.rank < next.rank ∨ next = precedence ∧ precedence = .assign then
          let before ← budget
          let extended ← deeper.operators structs operand next
          if (← budget) = before then
            return extended
          extend extended fuel
        else
          return operand

def rangeEnd (structs closed : Bool) : CodeReader Code := do
  if !closed && (← endsRange structs) then
    return []
  else
    return (← rightOperand deeper structs .range).code

def joinOperands (left : ExprCode) (operator : Code) (right : Code) (kind : ExprKind) :
    ExprCode :=
  { code := left.code ++ operator ++ right, kind, losesAttributes := left.losesAttributes }

/-- One operator after a left operand, if it binds as strongly as `base`. -/
def operatorStep (structs : Bool) (left : ExprCode) (base : Precedence) :
    CodeReader (Option ExprCode) := do
  if left.kind = .range then
    return none
  match ← binaryOperator? with
  | some (text, precedence) =>
      if precedence.rank < base.rank then
        return none
      if precedence = .compare ∧ left.kind = .comparison then
        throw .chainedComparison
      let operator ← expect text
      let right ← rightOperand deeper structs precedence
      let kind := if precedence = .compare then .comparison else .other "binary"
      return some (joinOperands left operator right.code kind)
  | none =>
      if base.rank ≤ Precedence.assign.rank && (← seesAssignment) then
        let operator ← expect "="
        let right ← rightOperand deeper structs .assign
        return some (joinOperands left operator right.code (.other "assign"))
      else if base.rank ≤ Precedence.range.rank && (← sees "..") then
        let (mark, closed) ← rangeMark false
        let finish ← rangeEnd deeper structs closed
        return some { code := left.code ++ mark ++ finish, kind := .range }
      else if base.rank ≤ Precedence.cast.rank && (← sees "as") then
        let operator ← expect "as"
        let type ← deeper.type false
        match ← castFault? with
        | some what => throw (.castFollowedBy what)
        | none => return some (joinOperands left operator type.code (.other "cast"))
      else
        return none

/-- The operators after a left operand that bind as strongly as `base` at least. -/
def anyOperators (structs : Bool) (left : ExprCode) (base : Precedence) : CodeReader ExprCode := do
  extend left (← budget)
where
  extend (left : ExprCode) : Nat → CodeReader ExprCode
    | 0 => return left
    | fuel + 1 => do
        match ← operatorStep deeper structs left base with
        | some extended => extend extended fuel
        | none => return left

end QueryMethods.Grammar
