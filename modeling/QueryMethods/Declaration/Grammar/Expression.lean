import QueryMethods.Declaration.Grammar.Control

/-!
# Expressions

An expression is an atom with what is appended to it, perhaps after unary operators, and binary
operators between such operands.
-/

namespace QueryMethods.Grammar

open CodeReader

variable (deeper : Grammar)

def exprList : CodeReader Code :=
  commaCode do return (← deeper.expr true).code

/-- The fields that the parts of a number with a point stand for, and whether it ends in a point. -/
def numberFields (spelling : List Char) : CodeReader (Code × Bool) := do
  let pieces := (String.ofList spelling).splitOn "."
  let pointed := pieces.length > 1 && pieces.getLast? == some ""
  let numbers := if pointed then pieces.dropLast else pieces
  let indices ← numbers.mapM fun piece => indexOf [.constant piece]
  return (separatedBy [.mark '.'] indices, pointed)

def appendMember (base : ExprCode) : CodeReader ExprCode := do
  let point ← expect "."
  let inner (code : Code) (kind : String) : ExprCode := { code, kind := .other kind }
  let (before, isDone) ← match ← ahead with
    | ⟨.constant text, _⟩ :: _ =>
        if Cue.isNumber text ∧ Lexeme.isFloat text.toList then do
          discard (take 1)
          let (fields, pointed) ← numberFields text.toList
          let code := base.code ++ point ++ fields
          if pointed then pure (code ++ point, false) else pure (code, true)
        else
          pure (base.code ++ point, false)
    | ⟨.mark '-', _⟩ :: ⟨.constant text, _⟩ :: _ =>
        if Cue.isNumber text ∧ Lexeme.isFloat text.toList then throw .negativeIndex
        else pure (base.code ++ point, false)
    | _ => pure (base.code ++ point, false)
  if isDone then
    return inner before "field"
  if ← sees "await" then
    return inner (before ++ (← wordCode)) "await"
  let (member, isNamed) ← member
  if !isNamed then
    return inner (before ++ member) "field"
  let generic ← if ← sees "::" then genericTail else pure []
  if !generic.isEmpty || (← sees "(") then
    let arguments ← enclosed '(' (exprList deeper)
    return inner (before ++ member ++ generic ++ arguments) "method_call"
  else
    return inner (before ++ member) "field"
where
  genericTail : CodeReader Code := do
    return (← expect "::") ++ (← angleArguments deeper)

def appendOne (base : ExprCode) : CodeReader (Option ExprCode) := do
  if ← sees "(" then
    return some {
      code := base.code ++ (← enclosed '(' (exprList deeper)), kind := .other "call" }
  else if (← sees ".") && !(← sees "..") && base.kind ≠ .range then
    return some (← appendMember deeper base)
  else if ← sees "[" then
    let index ← enclosed '[' do return (← deeper.expr true).code
    return some { code := base.code ++ index, kind := .other "index" }
  else if (← sees "?") && base.kind ≠ .range then
    return some { code := base.code ++ (← expect "?"), kind := .other "try" }
  else
    return none

def appendAll (base : ExprCode) : CodeReader ExprCode := do
  extend base (← budget)
where
  extend (base : ExprCode) : Nat → CodeReader ExprCode
    | 0 => return base
    | fuel + 1 => do
        match ← appendOne deeper base with
        | some extended => extend extended fuel
        | none => return base

/-- A tuple or an expression in parentheses. -/
def grouped : CodeReader ExprCode := do
  let (code, kind) ← within '(' do
    if ← atEnd then
      return ([], "tuple")
    let first ← deeper.expr true
    if ← atEnd then
      return (first.code, "paren")
    let comma ← expect ","
    return (first.code ++ comma ++ (← exprList deeper), "tuple")
  return { code := inParens code, kind := .other kind }

/-- A list of elements, or one element with how often it comes. -/
def arrayExpr : CodeReader ExprCode := do
  let (code, kind) ← within '[' do
    if ← atEnd then
      return ([], "array")
    let first ← deeper.expr true
    if ← atEnd then
      return (first.code, "array")
    else if ← sees "," then
      let comma ← expect ","
      return (first.code ++ comma ++ (← exprList deeper), "array")
    else if ← sees ";" then
      return (first.code ++ (← expect ";") ++ (← deeper.expr true).code, "repeat")
    else
      expected ["`,` or `;`"]
  return { code := inBrackets code, kind := .other kind }

def fieldValue : CodeReader Code := do
  let attributes ← outerAttributes deeper
  let (member, isNamed) ← member
  if !isNamed || (← sees ":") then
    return attributes ++ member ++ (← expect ":") ++ (← deeper.expr true).code
  else
    return attributes ++ member

/-- The fields of a value, and perhaps what the others are taken from. -/
def fieldValues : Nat → CodeReader Code
  | 0 => return []
  | fuel + 1 => do
      if ← atEnd then
        return []
      else if ← sees ".." then
        let points ← expect ".."
        if ← atEnd then return points else return points ++ (← deeper.expr true).code
      let field ← fieldValue deeper
      if ← atEnd then
        return field
      let comma ← expect ","
      return field ++ comma ++ (← fieldValues fuel)

/-- A path, generated code, or a value with fields. -/
def pathExpr (structs : Bool) : CodeReader ExprCode := do
  let named ← ownedPath deeper true
  let isPlain := !named.isOwned && named.path.segments.all (·.args.isEmpty)
  if isPlain && (← seesGenerated) then
    let body ← generatedBody
    return { code := named.code ++ body, kind := .generated (body.getLast? == some (.mark '}')) }
  else if structs && (← sees "\x7b") then
    let fields ← enclosed '{' do fieldValues deeper (← budget)
    return { code := named.code ++ fields, kind := .other "struct" }
  else
    return { code := named.code, kind := .path named.path }

def bindingExpr (structs : Bool) : CodeReader ExprCode := do
  let keyword ← expect "let"
  let pattern ← alternatives deeper
  let equals ← expect "="
  let first ← deeper.operand structs
  let value ← deeper.operators structs first .compare
  return { code := keyword ++ pattern.code ++ equals ++ value.code, kind := .other "let" }

def blockExpr? : CodeReader (Option ExprCode) := do
  if ← sees "if" then return some (← branch deeper)
  else if ← sees "while" then return some (← whileLoop deeper)
  else if (← sees "for") && !(← seesParameters) then return some (← forLoop deeper)
  else if ← sees "loop" then return some (← endlessLoop deeper)
  else if ← sees "match" then return some (← choiceExpr deeper)
  else if (← sees "try") && (← seesSecond "\x7b") then return some (← tryBlock deeper)
  else if ← sees "unsafe" then return some (← keywordBlock deeper "unsafe" "unsafe")
  else if (← sees "const") && (← seesSecond "\x7b") then
    return some (← keywordBlock deeper "const" "const")
  else if ← sees "\x7b" then return some (blockCode "block" (← attributedBlock deeper))
  else if ← sees .lifetime then return some (← labelled deeper)
  else return none

def jump? (structs : Bool) : CodeReader (Option ExprCode) := do
  if ← sees "break" then return some (← breakJump deeper structs)
  else if ← sees "continue" then return some (← continueJump)
  else if ← sees "return" then return some (← valueJump deeper "return")
  else if ← sees "yield" then return some (← valueJump deeper "yield")
  else if ← sees "become" then return some (← becomeJump deeper)
  else return none

def seesPathExpr : CodeReader Bool := do
  return (← seesAny [.name, "::", "<", "self", "Self", "super", "crate"]) ||
    (← sees "try") && ((← seesSecond "!") || (← seesSecond "::"))

def seesAsyncBlock : CodeReader Bool := do
  return (← sees "async") &&
    ((← seesSecond "\x7b") || (← seesSecond "move") && (← seesThird "\x7b"))

def atom (structs : Bool) : CodeReader ExprCode := do
  if ← sees .literal then literalExpr
  else if ← seesAsyncBlock then asyncBlock deeper
  else if (← sees "try") && (← seesSecond "\x7b") then tryBlock deeper
  else if ← seesClosure then closure deeper structs
  else if ← seesBuiltin then
    let (_, code) ← spelled builtin
    return { code, kind := .asSpelled, losesAttributes := true }
  else if ← seesPathExpr then pathExpr deeper structs
  else if ← sees "(" then grouped deeper
  else if ← sees "[" then arrayExpr deeper
  else if ← sees "let" then bindingExpr deeper structs
  else if ← sees ".." then
    let (mark, closed) ← rangeMark false
    return { code := mark ++ (← rangeEnd deeper structs closed), kind := .range }
  else if ← sees "_" then return { code := ← wordCode, kind := .other "infer" }
  else
    match ← jump? deeper structs with
    | some found => return found
    | none =>
        match ← blockExpr? deeper with
        | some found => return found
        | none => expected ["an expression"]

def reference (structs : Bool) : CodeReader ExprCode := do
  let mark ← expect "&"
  let isRaw := (← sees "raw") && ((← seesSecond "mut") || (← seesSecond "const"))
  let modifiers ← if isRaw then do pure ((← wordCode) ++ (← wordCode)) else maybe "mut"
  let target ← deeper.operand structs
  return {
    code := mark ++ modifiers ++ target.code
    kind := .other (if isRaw then "unknown" else "reference") }

/-- An atom with all that is appended to it, after its attributes. -/
def appended (structs : Bool) (attributes spelling : Code) :
    CodeReader ExprCode := do
  let (found, tail) ← spelled do
    appendAll deeper (← atom deeper structs)
  if found.kind = .asSpelled then
    return { found with code := spelling ++ tail }
  else if !attributes.isEmpty ∧ found.kind = .range then
    throw .attributedRange
  else
    return { found with code := attributes ++ found.code }

def anyOperand (structs : Bool) : CodeReader ExprCode := do
  let (attributes, spelling) ← spelled (outerAttributes deeper)
  if ← sees "&" then
    let found ← reference deeper structs
    return { found with code := attributes ++ found.code }
  else if ← seesAny ["*", "!", "-"] then
    let operator ← take 1
    let target ← deeper.operand structs
    return { code := attributes ++ operator ++ target.code, kind := .other "unary" }
  else
    appended deeper structs attributes spelling

def anyExpr (structs : Bool) : CodeReader ExprCode := do
  let first ← anyOperand deeper structs
  anyOperators deeper structs first .jump

/-- An expression that a block ends, unless a method or a question mark follows the block. -/
def earlyExpr : CodeReader ExprCode := do
  let attributes ← outerAttributes deeper
  let first ← match ← blockExpr? deeper with
    | some found => pure found
    | none => deeper.operand true
  let attributed (expr : ExprCode) : ExprCode :=
    if expr.kind = .asSpelled then expr else { expr with code := attributes ++ expr.code }
  if !first.kind.isBlock then
    anyOperators deeper true (attributed first) .jump
  else if (← sees ".") && !(← sees "..") || (← sees "?") then
    anyOperators deeper true (attributed (← appendAll deeper first)) .jump
  else
    return attributed first

end QueryMethods.Grammar
