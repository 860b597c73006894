import QueryMethods.Declaration.Grammar.Type

/-!
# Patterns

A pattern begins with what its first two tokens tell. Alternatives are read where several patterns
may stand; single patterns bind closer.
-/

namespace QueryMethods.Grammar

open CodeReader

/-- The name of a member that is not named: its number, without underscores or another base. -/
def indexOf (code : Code) : CodeReader Code := do
  match code with
  | [.constant text] =>
      if Lexeme.isFloat text.toList || !Cue.isNumber text then
        throw (.expected false ["integer literal"])
      let (value, suffix) := Lexeme.wholeValue text.toList
      if !suffix.isEmpty then
        throw .suffixedIndex
      if value < UInt32.size then return [.constant (toString value)] else throw .hugeIndex
  | _ => throw .negativeIndex

def wholeCue : Cue where
  label := "integer literal"
  holds
    | ⟨.constant text, _⟩ :: _ => Cue.isNumber text && !Lexeme.isFloat text.toList
    | ⟨.mark '-', _⟩ :: ⟨.constant text, _⟩ :: _ =>
        Cue.isNumber text && !Lexeme.isFloat text.toList
    | _ => false

/-- A member by its name or number, with its answer to whether it has a name. -/
def member : CodeReader (Code × Bool) := do
  if ← sees .name then return (← nameCode, true)
  else if ← sees wholeCue then return (← indexOf (← literal), false)
  else expected ["identifier or integer"]

/-- Two points, perhaps with an equals sign or, in patterns, a third point, which becomes one. -/
def rangeMark (inPattern : Bool) : CodeReader (Code × Bool) := do
  if ← sees "..=" then
    return (← expect "..=", true)
  else if ← sees "..." then
    if inPattern then
      discard (expect "...")
      return ("..=".toList.map .mark, true)
    else
      expected ["`..=`"]
  else
    return (← expect "..", false)

variable (deeper : Grammar)

def seesAlternative : CodeReader Bool := do
  return (← sees "|") && !(← sees "||") && !(← sees "|=")

/-- Patterns with a bar between any two of them, and perhaps before the first. -/
def alternatives : CodeReader PatternCode := do
  let bar ← maybe "|"
  let first ← deeper.pattern
  let others ← codeWhile seesAlternative do
    return (← expect "|") ++ (← deeper.pattern).code
  if bar.isEmpty ∧ others.isEmpty then
    return first
  else
    return { code := bar ++ first.code ++ others }

def patternBound : CodeReader Code := do
  if (← atEnd) || (← seesAny ["|", "=", ",", ";", "if"]) || (← sees ":") && !(← sees "::") then
    return []
  else if ← sees .literal then
    literal
  else if ← seesAny [.name, "::", "<", "self", "Self", "super", "crate"] then
    return (← ownedPath deeper true).code
  else if ← sees "const" then
    return (← expect "const") ++ (← attributedBlock deeper)
  else
    expectedOneOf [.literal, .name, "::", "<", "self", "Self", "super", "crate", "const"]

def patternRange (start : Code) : CodeReader PatternCode := do
  let (mark, closed) ← rangeMark true
  let finish ← patternBound deeper
  if closed ∧ finish.isEmpty then
    expected ["range upper bound"]
  return { code := start ++ mark ++ finish, form := if finish.isEmpty then .openRange else .other }

/-- A range without a start, or two points alone. -/
def openPattern : CodeReader PatternCode := do
  let (mark, closed) ← rangeMark false
  let finish ← patternBound deeper
  if finish.isEmpty then
    if closed then
      expected ["range upper bound"]
    return { code := mark, form := .rest }
  else
    return { code := mark ++ finish, form := .openRange }

def boundOrRange : CodeReader PatternCode := do
  let start ← if ← sees "-" then
      if ← sees .literal then literal
      else expectedOneOf [.literal, .name, "::", "<", "self", "Self", "super", "crate", "const"]
    else
      patternBound deeper
  if ← sees ".." then
    patternRange deeper start
  else
    return { code := start }

/-- A name, perhaps for what another pattern matches. -/
def namePattern : CodeReader PatternCode := do
  let modifiers := (← maybe "ref") ++ (← maybe "mut")
  let name ← if ← sees "self" then wordCode else nameCode
  if ← sees "@" then
    return { code := modifiers ++ name ++ (← expect "@") ++ (← deeper.pattern).code }
  else
    return { code := modifiers ++ name }

def fieldPattern : CodeReader Code := do
  let modifiers := (← maybe "box") ++ (← maybe "ref") ++ (← maybe "mut")
  let (member, named) ← if modifiers.isEmpty then member else do pure (← nameCode, true)
  if modifiers.isEmpty && (← sees ":") || !named then
    return member ++ (← expect ":") ++ (← alternatives deeper).code
  else
    return modifiers ++ member

/-- The fields of a pattern, and two points for all others. -/
def fieldPatterns : Nat → CodeReader Code
  | 0 => return []
  | fuel + 1 => do
      if ← atEnd then
        return []
      let attributes ← outerAttributes deeper
      if ← sees ".." then
        return attributes ++ (← expect "..")
      let field := attributes ++ (← fieldPattern deeper)
      if ← atEnd then
        return field
      let comma ← expect ","
      return field ++ comma ++ (← fieldPatterns fuel)

def pathPattern : CodeReader PatternCode := do
  let named ← ownedPath deeper true
  let isPlain := !named.isOwned && named.path.segments.all (·.args.isEmpty)
  if isPlain && (← seesGenerated) then
    return { code := named.code ++ (← generatedBody) }
  else if ← sees "\x7b" then
    let fields ← enclosed '{' do fieldPatterns deeper (← budget)
    return { code := named.code ++ fields }
  else if ← sees "(" then
    let elements ← enclosed '(' (commaCode do return (← alternatives deeper).code)
    return { code := named.code ++ elements }
  else if ← sees ".." then
    patternRange deeper named.code
  else
    return { code := named.code }

/-- A pattern in a slice; a range with one end needs parentheses there. -/
def slicePattern : CodeReader Code := do
  let pattern ← alternatives deeper
  if pattern.form = .openRange then
    throw .openRangeInSlice
  return pattern.code

def referencePattern : CodeReader PatternCode := do
  let modifiers := (← expect "&") ++ (← maybe "mut")
  return { code := modifiers ++ (← deeper.pattern).code }

def seesPathPattern : CodeReader Bool := do
  if ← sees .name then
    return (← seesSecond "::") || (← seesSecond "!") || (← seesSecond "\x7b") ||
      (← seesSecond "(") || (← seesSecond "..")
  else
    return (← sees "self") && (← seesSecond "::") ||
      (← seesAny ["::", "<", "Self", "super", "crate"])

def anyPattern : CodeReader PatternCode := do
  if ← seesPathPattern then
    pathPattern deeper
  else if ← sees "_" then
    return { code := ← wordCode }
  else if ← sees "box" then
    let (_, code) ← spelled do
      discard (expect "box")
      discard deeper.pattern
    return { code, form := .asSpelled }
  else if ← seesAny ["-", .literal, "const"] then
    boundOrRange deeper
  else if ← seesAny ["ref", "mut", "self", .name] then
    namePattern deeper
  else if ← sees "&" then
    referencePattern deeper
  else if ← sees "(" then
    return { code := ← enclosed '(' (commaCode do return (← alternatives deeper).code) }
  else if ← sees "[" then
    return { code := ← enclosed '[' (commaCode (slicePattern deeper)) }
  else if (← sees "..") && !(← sees "...") then
    openPattern deeper
  else
    expectedOneOf [.name, "::", "<", "_", .literal, "const", "ref", "mut", "&", "(", "[", "..",
      "const"]

end QueryMethods.Grammar
