import QueryMethods.Declaration.Grammar.Statement

/-!
# Signatures

What a function takes and returns. Only the first parameter may be the receiver, and only the last
may stand for any number of arguments.
-/

namespace QueryMethods.Grammar

open CodeReader

variable (deeper : Grammar)

/-- The value that a method is called on, perhaps with its type. -/
def receiver : CodeReader Code := do
  let mark ← maybe "&"
  let lifetime ← if !mark.isEmpty && (← sees .lifetime) then lifetime else pure []
  let code := mark ++ lifetime ++ (← maybe "mut") ++ (← expect "self")
  if mark.isEmpty && (← sees ":") then
    return code ++ (← expect ":") ++ (← deeper.type true).code
  else
    return code

inductive ParameterForm where
  | receiver
  | typed
  /-- Any number of arguments. -/
  | many
deriving DecidableEq

structure ParameterCode where
  code : Code
  form : ParameterForm := .typed

def manyArguments (pattern : Code) : CodeReader ParameterCode := do
  let code := pattern ++ (← expect "...")
  return { code := code ++ (← if ← atEnd then pure [] else expect ","), form := .many }

/-- A parameter after its attributes. A type with arguments may stand without a pattern. -/
def parameter : CodeReader ParameterCode := do
  if ← sees "..." then
    return ← manyArguments []
  match ← attempt (receiver deeper) with
  | some code => return { code, form := .receiver }
  | none =>
      if (← sees .name) && (← seesSecond "<") then
        return { code := [.word "_", .mark ':'] ++ (← deeper.type true).code }
      let pattern := (← deeper.pattern).code ++ (← expect ":")
      if ← sees "..." then
        manyArguments pattern
      else
        return { code := pattern ++ (← deeper.type true).code }

def parameters : CodeReader Code := do
  read 0 false (← budget)
where
  /-- The parameters after `count` others, one of which may be the receiver. -/
  read (count : Nat) (received : Bool) : Nat → CodeReader Code
    | 0 => return []
    | fuel + 1 => do
        if ← atEnd then
          return []
        let attributes ← outerAttributes deeper
        let next ← parameter deeper
        if next.form = .many then
          return attributes ++ next.code
        if next.form = .receiver ∧ count ≠ 0 then
          throw (.misplacedReceiver received)
        if ← atEnd then
          return attributes ++ next.code
        let comma ← expect ","
        return attributes ++ next.code ++ comma ++
          (← read (count + 1) (received || next.form = .receiver) fuel)

/-- Whether a function comes, after what may stand before its keyword; `safe` if it may be safe. -/
def seesFunction (safe : Bool) : CodeReader Bool := do
  let found ← glance do
    discard (maybe "const")
    discard (maybe "async")
    if safe && (← sees "safe") then discard (expect "safe") else discard (maybe "unsafe")
    discard foreignRules
    discard (expect "fn")
  return found.isSome

structure SignatureCode where
  code : Code
  isSafe : Bool := false

def signature (safe : Bool) : CodeReader SignatureCode := do
  let modifiers := (← maybe "const") ++ (← maybe "async") ++ (← maybe "unsafe")
  let marked ← if safe then maybe "safe" else pure []
  let head := modifiers ++ (← foreignRules) ++ (← expect "fn") ++ (← nameCode)
  let generics ← generics deeper
  let parameters ← enclosed '(' (parameters deeper)
  let output ← result deeper true
  let conditions ← conditions deeper
  return {
    code := head ++ generics.code ++ parameters ++ output ++ conditions
    isSafe := !marked.isEmpty }

end QueryMethods.Grammar
