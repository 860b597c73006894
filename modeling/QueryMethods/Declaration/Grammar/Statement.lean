import QueryMethods.Declaration.Grammar.Expression

/-!
# Statements

A statement is a local binding, an item or an expression. An expression needs a semicolon behind it,
unless it ends in a block or is the last.
-/

namespace QueryMethods.Grammar

open CodeReader

structure StatementCode where
  code : Code
  /-- Whether nothing but the end of the block may follow. -/
  isOpen : Bool := false

variable (deeper : Grammar)

/-- Whether the next tokens are a plain path and the cue after it holds for what follows. -/
def afterPlainPath (test : CodeReader Bool) : CodeReader Bool := do
  let found ← glance do
    discard plainPath
    if ← sees "!" then test else return false
  return found.getD false

/-- Generated code in braces stands alone, unless a method or a question mark follows. -/
def seesGeneratedStatement : CodeReader Bool :=
  afterPlainPath do
    return (← seesSecond "\x7b") &&
      !((← seesThird ".") && !(← seesThird "..") || (← seesThird "?"))

/-- A declaration that another name makes has a name of its own. -/
def seesGeneratedItem : CodeReader Bool :=
  afterPlainPath do
    return (← seesSecond .name) || (← seesSecond "try")

def seesStaticItem : CodeReader Bool := do
  return (← sees "static") && ((← seesSecond "mut") || (← seesSecond .name))

/-- A constant or a constant function, and neither a block nor a closure. -/
def seesConstItem : CodeReader Bool := do
  let isAsyncClosure := (← seesSecond "async") &&
    !((← seesThird "unsafe") || (← seesThird "extern") || (← seesThird "fn"))
  return (← sees "const") && !((← seesSecond "\x7b") || (← seesSecond "static") ||
    isAsyncClosure || (← seesSecond "move") || (← seesSecond "|"))

def seesAsyncItem : CodeReader Bool := do
  return (← sees "async") &&
    ((← seesSecond "unsafe") || (← seesSecond "extern") || (← seesSecond "fn"))

def seesItem : CodeReader Bool := do
  return (← seesAny ["pub", "extern", "use", "fn", "mod", "type", "struct", "enum", "trait", "impl",
      "macro"]) ||
    (← sees "crate") && !(← seesSecond "::") || (← seesStaticItem) || (← seesConstItem) ||
    (← sees "unsafe") && !(← seesSecond "\x7b") || (← seesAsyncItem) ||
    (← sees "union") && (← seesSecond .name) || (← sees "auto") && (← seesSecond "trait") ||
    (← sees "default") && ((← seesSecond "unsafe") || (← seesSecond "impl")) ||
    (← seesGeneratedItem)

/-- A local binding, which may be left where its pattern does not match. -/
def localBinding : CodeReader Code := do
  let keyword ← expect "let"
  let pattern ← deeper.pattern
  let typed ← if ← sees ":" then do
      pure ((← expect ":") ++ (← deeper.type true).code)
    else
      pure []
  let bound ← if ← sees "=" then do
      let equals ← expect "="
      let value ← deeper.expr true
      let otherwise ← if value.code.getLast? ≠ some (.mark '}') && (← sees "else") then do
          pure ((← expect "else") ++ (← block deeper))
        else
          pure []
      pure (equals ++ value.code ++ otherwise)
    else
      pure []
  return keyword ++ pattern.code ++ typed ++ bound ++ (← expect ";")

def generatedStatement : CodeReader Code := do
  return (← plainPath).code ++ (← generatedBody) ++ (← maybe ";")

def exprStatement (attributes : Code) : CodeReader StatementCode := do
  let expr ← deeper.early
  let code := (if expr.losesAttributes then [] else attributes) ++ expr.code
  if ← sees ";" then
    return { code := code ++ (← expect ";") }
  else
    return { code, isOpen := !expr.kind.isBlock && expr.kind ≠ .generated true }

def statement : CodeReader StatementCode := do
  let before ← get
  let attributes ← outerAttributes deeper
  if ← seesGeneratedStatement then
    return { code := attributes ++ (← generatedStatement) }
  else if ← sees "let" then
    return { code := attributes ++ (← localBinding deeper) }
  else if ← seesItem then
    set before
    return { code := ← deeper.item }
  else
    exprStatement deeper attributes

def allStatements : CodeReader Code := do
  read (← budget)
where
  read : Nat → CodeReader Code
    | 0 => return []
    | fuel + 1 => do
        let empty ← codeWhile (sees ";") (expect ";")
        if ← atEnd then
          return empty
        let next ← statement deeper
        if ← atEnd then
          return empty ++ next.code
        if next.isOpen then
          throw (.leftover (some ';'))
        return empty ++ next.code ++ (← read fuel)

end QueryMethods.Grammar
