import QueryMethods.Declaration.Grammar.Operator

/-!
# Control flow

Branches, loops, jumps, closures and blocks with a keyword before them. Where a block has to follow
an expression, a brace after a path opens the block.
-/

namespace QueryMethods.Grammar

open CodeReader

def seesExpr : CodeReader Bool := do
  return (← sees .word) && !(← sees "as") ||
    (← seesAny ["(", "[", "\x7b", .literal, "..", "::", .lifetime, "#"]) ||
    (← sees "!") && !(← sees "!=") || (← sees "-") && !(← sees "-=") && !(← sees "->") ||
    (← sees "*") && !(← sees "*=") || (← sees "|") && !(← sees "|=") ||
    (← sees "&") && !(← sees "&=") || (← sees "<") && !(← sees "<=") && !(← sees "<<=")

def blockCode (name : String) (code : Code) : ExprCode :=
  { code, kind := .block name }

variable (deeper : Grammar)

/-- Conditions with their blocks, and perhaps a last block without a condition. -/
def branches : Nat → CodeReader Code
  | 0 => return []
  | fuel + 1 => do
      let keyword ← expect "if"
      let condition ← deeper.expr false
      let code := keyword ++ condition.code ++ (← block deeper)
      if !(← sees "else") then
        return code
      let otherwise ← expect "else"
      if ← sees "if" then
        return code ++ otherwise ++ (← branches fuel)
      else if ← sees "\x7b" then
        return code ++ otherwise ++ (← block deeper)
      else
        expectedOneOf ["if", "\x7b"]

def branch : CodeReader ExprCode := do
  return blockCode "if" (← branches deeper (← budget))

/-- One arm of a choice; a comma has to follow, unless the arm ends in a block or is the last. -/
def arm : CodeReader Code := do
  let attributes ← outerAttributes deeper
  let pattern ← alternatives deeper
  let guarded ← if ← sees "if" then do
      pure ((← expect "if") ++ (← deeper.expr true).code)
    else
      pure []
  let arrow ← expect "=>"
  let body ← deeper.early
  let comma ← if body.kind.isBlock || (← atEnd) then maybe "," else expect ","
  return attributes ++ pattern.code ++ guarded ++ arrow ++ body.code ++ comma

def choiceExpr : CodeReader ExprCode := do
  let keyword ← expect "match"
  let subject ← deeper.expr false
  let arms ← enclosed '{' do
    return (← innerAttributes deeper) ++ (← codeWhile (return !(← atEnd)) (arm deeper))
  return blockCode "match" (keyword ++ subject.code ++ arms)

def whileLoop : CodeReader ExprCode := do
  let keyword ← expect "while"
  let condition ← deeper.expr false
  return blockCode "while" (keyword ++ condition.code ++ (← attributedBlock deeper))

def forLoop : CodeReader ExprCode := do
  let keyword ← expect "for"
  let pattern ← alternatives deeper
  let source := (← expect "in") ++ (← deeper.expr false).code
  return blockCode "for_loop" (keyword ++ pattern.code ++ source ++ (← attributedBlock deeper))

def endlessLoop : CodeReader ExprCode := do
  return blockCode "loop" ((← expect "loop") ++ (← attributedBlock deeper))

def labelled : CodeReader ExprCode := do
  let label := (← lifetime) ++ (← expect ":")
  let found ← if ← sees "while" then whileLoop deeper
    else if ← sees "for" then forLoop deeper
    else if ← sees "loop" then endlessLoop deeper
    else if ← sees "\x7b" then do pure (blockCode "block" (← attributedBlock deeper))
    else expected ["loop or block expression"]
  return { found with code := label ++ found.code }

def keywordBlock (keyword name : String) : CodeReader ExprCode := do
  return blockCode name ((← expect keyword) ++ (← attributedBlock deeper))

def tryBlock : CodeReader ExprCode := do
  return blockCode "try_block" ((← expect "try") ++ (← block deeper))

def asyncBlock : CodeReader ExprCode := do
  let keywords := (← expect "async") ++ (← maybe "move")
  return { code := keywords ++ (← block deeper), kind := .other "async" }

def jumpValue : CodeReader Code := do
  if ← seesExpr then
    return (← deeper.expr true).code
  else
    return []

def breakJump (structs : Bool) : CodeReader ExprCode := do
  let keyword ← expect "break"
  if (← sees .lifetime) && (← seesSecond ":") then
    discard (deeper.expr true)
    throw .bareLabel
  let label ← if ← sees .lifetime then lifetime else pure []
  let value ← if !structs && (← sees "\x7b") then pure [] else jumpValue deeper
  return { code := keyword ++ label ++ value, kind := .other "break" }

def continueJump : CodeReader ExprCode := do
  let keyword ← expect "continue"
  let label ← if ← sees .lifetime then lifetime else pure []
  return { code := keyword ++ label, kind := .other "continue" }

def valueJump (keyword : String) : CodeReader ExprCode := do
  return { code := (← expect keyword) ++ (← jumpValue deeper), kind := .other keyword }

/-- A call that takes the place of the one around it. -/
def becomeJump : CodeReader ExprCode := do
  let (_, code) ← spelled do
    discard (expect "become")
    discard (deeper.expr true)
  return { code, kind := .asSpelled, losesAttributes := true }

def closureParameter : CodeReader Code := do
  let attributes ← outerAttributes deeper
  let pattern ← deeper.pattern
  if ← sees ":" then
    return attributes ++ pattern.code ++ (← expect ":") ++ (← deeper.type true).code
  else if pattern.form = .asSpelled then
    return pattern.code
  else
    return attributes ++ pattern.code

def closure (structs : Bool) : CodeReader ExprCode := do
  let quantified ← quantifier deeper
  let modifiers := (← maybe "const") ++ (← maybe "static") ++ (← maybe "async") ++
    (← maybe "move")
  let opening ← expect "|"
  let parameters := seriesCode "," (← series "," (sees "|") (closureParameter deeper))
  let head := quantified ++ modifiers ++ opening ++ parameters ++ (← expect "|")
  let body ← if ← sees "->" then do
      pure ((← expect "->") ++ (← deeper.type true).code ++ (← block deeper))
    else do
      pure (← deeper.expr structs).code
  return { code := head ++ body, kind := .other "closure" }

/-- Whether parameters come after a keyword that may also begin something else. -/
def seesParameters : CodeReader Bool := do
  return areParameters (Lexeme.afterTree (← ahead))

def seesClosure : CodeReader Bool := do
  return (← seesAny ["|", "move", "static"]) || (← sees "for") && (← seesParameters) ||
    (← sees "const") && !(← seesSecond "\x7b") ||
    (← sees "async") && ((← seesSecond "|") || (← seesSecond "move"))

end QueryMethods.Grammar
