import QueryMethods.Declaration.Grammar.Attribute

/-!
# Paths with generic arguments

Lifetimes come first among generic arguments and parameters, wherever they are written. In
expressions the angle brackets need double colons before them.
-/

namespace QueryMethods.Grammar

open CodeReader

/-- Arguments or parameters, each with its answer to whether it is a lifetime and whether a comma
follows. Lifetimes come first; what is now the last one keeps its comma. -/
def lifetimesFirst (parts : List ((Bool × Code) × Bool)) : Code :=
  let sorted := parts.filter (·.1.1) ++ parts.filter (!·.1.1)
  commaSeparated (sorted.map (·.1.2)) ++ if sorted.getLast?.any (·.2) then [.mark ','] else []

structure OwnedPath where
  /-- The code with the type that the path starts in. -/
  code : Code
  isOwned : Bool
  path : Path

variable (deeper : Grammar)

/-- A value that stands for a constant: a literal, a name or a block. -/
def constantValue : CodeReader Code := do
  if ← sees .literal then literal
  else if ← sees .name then nameCode
  else if ← sees "\x7b" then attributedBlock deeper
  else expected []

/-- Bounds with a plus between any two of them, up to where `ended` holds. -/
def plainBounds (ended : CodeReader Bool) : CodeReader Code := do
  return seriesCode "+" (← chain "+" ended do return (← deeper.bound {}).code)

/-- The value or the bounds that a generic argument gives to a name. -/
def binding : CodeReader Code := do
  if ← sees "=" then
    let equals ← expect "="
    if ← seesAny [.literal, "\x7b"] then
      return equals ++ (← constantValue deeper)
    else
      return equals ++ (← deeper.type true).code
  else if ← sees ":" then
    return (← expect ":") ++ (← plainBounds deeper (seesAny [",", ">"]))
  else
    return []

def genericArgument : CodeReader (Bool × Code) := do
  if (← sees .lifetime) && !(← seesSecond "+") then
    return (true, ← lifetime)
  else if ← seesAny [.literal, "\x7b"] then
    return (false, ← constantValue deeper)
  else
    let type ← deeper.type true
    if type.form = .path true then
      return (false, type.code ++ (← binding deeper))
    else
      return (false, type.code)

def angleArguments : CodeReader Code := do
  let opening ← expect "<"
  let arguments ← series "," (sees ">") (genericArgument deeper)
  return opening ++ lifetimesFirst arguments ++ (← expect ">")

def genericArguments : CodeReader Code := do
  return (← maybe "::") ++ (← angleArguments deeper)

def seesArguments (inExpr : Bool) : CodeReader Bool := do
  if (← sees "::") && (← seesThird "<") then
    return true
  else
    return !inExpr && (← sees "<") && !(← sees "<=") && !(← sees "<<=")

def segment (inExpr : Bool) : CodeReader PathSegment := do
  if ← seesAny ["super", "self", "crate", "try"] then
    return ⟨← word, []⟩
  let name ← if ← sees "Self" then word else name
  if ← seesArguments inExpr then
    return ⟨name, ← genericArguments deeper⟩
  else
    return ⟨name, []⟩

/-- The segments after the first; double colons before parentheses do not belong to them. -/
def moreSegments (inExpr : Bool) : CodeReader (List PathSegment) :=
  parts do
    if (← sees "::") && !(← seesThird "(") then
      discard (expect "::")
      return some (← segment deeper inExpr)
    else
      return none

def path (inExpr : Bool) : CodeReader Path := do
  let root ← maybe "::"
  let first ← segment deeper inExpr
  return ⟨!root.isEmpty, first :: (← moreSegments deeper inExpr)⟩

/-- The segments after a type in angle brackets, each after double colons. -/
def ownedSegments (inExpr : Bool) : CodeReader (List PathSegment) := do
  discard (expect "::")
  let found ← chain "::" (return false) (segment deeper inExpr)
  return found.map (·.1)

/-- A path, or one that starts in a type, perhaps seen as a trait. -/
def ownedPath (inExpr : Bool) : CodeReader OwnedPath := do
  if !(← sees "<") then
    let path ← path deeper inExpr
    return { code := path.code, isOwned := false, path }
  let opening ← expect "<"
  let owner := opening ++ (← deeper.type true).code
  if ← sees "as" then
    let keyword ← expect "as"
    let trait ← path deeper false
    let closing ← expect ">"
    let own ← ownedSegments deeper inExpr
    return {
      code := owner ++ keyword ++ trait.code ++ closing ++ (Path.mk true own).code
      isOwned := true
      path := ⟨trait.rooted, trait.segments ++ own⟩ }
  else
    let closing ← expect ">"
    let own : Path := ⟨true, ← ownedSegments deeper inExpr⟩
    return { code := owner ++ closing ++ own.code, isOwned := true, path := own }

end QueryMethods.Grammar
