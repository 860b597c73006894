import QueryMethods.Declaration.Grammar.Path

/-!
# Bounds and generic parameters

A bound is a lifetime, a trait, or a list of what is captured. A trait that is called as a function
has its parameters in parentheses.
-/

namespace QueryMethods.Grammar

open CodeReader

variable (deeper : Grammar)

def result (plus : Bool) : CodeReader Code := do
  if ← sees "->" then
    return (← expect "->") ++ (← deeper.type plus).code
  else
    return []

/-- A colon and what follows it, where a colon before nothing is dropped. -/
def afterColon (bounds : CodeReader Code) : CodeReader Code := do
  let colon ← maybe ":"
  if colon.isEmpty then
    return []
  let code ← bounds
  return if code.isEmpty then [] else colon ++ code

/-- Lifetimes with a plus between any two of them. -/
def lifetimeBounds (ended : CodeReader Bool) : CodeReader Code := do
  return seriesCode "+" (← chain "+" ended lifetime)

def endsParameter : CodeReader Bool := do
  return (← atEnd) || (← seesAny [",", ">"])

def lifetimeParameter : CodeReader Code := do
  return (← lifetime) ++ (← afterColon (lifetimeBounds endsParameter))

def typeParameter : CodeReader Code := do
  let name ← nameCode
  let bounds ← afterColon (plainBounds deeper do
    return (← endsParameter) || (← sees "="))
  if ← sees "=" then
    return name ++ bounds ++ (← expect "=") ++ (← deeper.type true).code
  else
    return name ++ bounds

def constParameter : CodeReader Code := do
  let code := (← expect "const") ++ (← nameCode) ++ (← expect ":") ++ (← deeper.type true).code
  if ← sees "=" then
    return code ++ (← expect "=") ++ (← constantValue deeper)
  else
    return code

/-- A parameter, with its answer to whether it is a lifetime; `blank` if it may have no name. -/
def genericParameter (blank : Bool) : CodeReader (Bool × Code) := do
  let attributes ← outerAttributes deeper
  if ← sees .lifetime then
    return (true, attributes ++ (← lifetimeParameter))
  else if ← sees .name then
    return (false, attributes ++ (← typeParameter deeper))
  else if ← sees "const" then
    return (false, attributes ++ (← constParameter deeper))
  else if blank ∧ (← sees "_") then
    return (false, attributes ++ (← wordCode))
  else if blank then
    expectedOneOf [.lifetime, .name, "const"]
  else
    expectedOneOf [.name, .lifetime, "const"]

/-- Generic parameters, and whether there are angle brackets at all. -/
structure Generics where
  code : Code := []
  isPresent : Bool := false

def generics : CodeReader Generics := do
  if !(← sees "<") then
    return {}
  discard (expect "<")
  let found ← series "," (sees ">") (genericParameter deeper true)
  discard (expect ">")
  return {
    code := if found.isEmpty then [] else inAngles (lifetimesFirst found)
    isPresent := true }

/-- The parameters that hold for what follows them. -/
def quantifier : CodeReader Code := do
  if !(← sees "for") then
    return []
  let opening := (← expect "for") ++ (← expect "<")
  let found ← series "," (sees ">") (genericParameter deeper false)
  let parameters := seriesCode "," (found.map fun (parameter, comma) => (parameter.2, comma))
  return opening ++ parameters ++ (← expect ">")

def callArguments : CodeReader Code := do
  let parameters ← enclosed '(' (commaCode do return (← deeper.type true).code)
  return parameters ++ (← result deeper false)

/-- What a type captures: lifetimes, which come first, and names. -/
def capture : CodeReader Code := do
  let opening := (← expect "use") ++ (← expect "<")
  let captured ← seriesUpTo "," (sees ">") (do
      if (← sees ",") || (← sees ">") then return !(← sees ">") else expectedOneOf [",", ">"])
    (do
      if ← sees .lifetime then return (true, ← lifetime)
      else if ← seesAny [.name, "Self"] then return (false, ← wordCode)
      else expectedOneOf [.lifetime, .name, ">"])
    (← budget)
  return opening ++ lifetimesFirst captured ++ (← expect ">")

/-- A trait may be constant, or constant where its implementation is. -/
def constness (rules : BoundRules) : CodeReader Code := do
  if ← sees "[" then
    let code ← enclosed '[' (expect "const")
    if !rules.constant then
      throw (.misplacedConst "[const]")
    return code
  else if ← sees "const" then
    let code ← expect "const"
    if !rules.constant then
      throw (.misplacedConst "const")
    return code
  else
    return []

/-- Whether arguments are brackets around nothing, or not there at all. -/
def areBlank (args : Code) : Bool :=
  args.all fun token => [.mark ':', .mark '<', .mark '>'].contains token

/-- A path whose last segment loses its arguments. -/
def calledPath (path : Path) : Path :=
  let called := path.segments.getLast?.map fun segment => ⟨segment.name, []⟩
  { path with segments := path.segments.dropLast ++ called.toList }

/-- A trait, or one that is called as a function; brackets around nothing make way for a call. -/
def calledTrait : CodeReader Code := do
  let path ← path deeper false
  let isBare := path.segments.getLast?.all (areBlank ·.args)
  if isBare && ((← sees "(") || (← sees "::") && (← seesThird "(")) then
    discard (maybe "::")
    return (calledPath path).code ++ (← callArguments deeper)
  else
    return path.code

def traitBound (rules : BoundRules) : CodeReader BoundCode := do
  let before ← quantifier deeper
  let constness ← constness rules
  let option ← maybe "?"
  let after ← if before.isEmpty ∧ !option.isEmpty then quantifier deeper else pure []
  let trait ← calledTrait deeper
  if !option.isEmpty ∧ !(before ++ after).isEmpty then
    throw .quantifiedOption
  return {
    code := before ++ constness ++ option ++ trait
    form := if constness.isEmpty then .trait else .constantTrait }

def anyBound (rules : BoundRules) : CodeReader BoundCode := do
  if ← sees .lifetime then
    return { code := ← lifetime, form := .lifetime }
  else if ← sees "use" then
    let code ← capture
    if !rules.capture then
      throw .misplacedCapture
    return { code, form := .capture }
  else
    let (bound, spelling) ← spelled do
      if ← sees "(" then
        let inner ← within '(' (traitBound deeper rules)
        return { inner with code := inParens inner.code }
      else
        traitBound deeper rules
    return if bound.form = .constantTrait then { bound with code := spelling } else bound

def seesBound (rules : BoundRules) : CodeReader Bool := do
  return (← seesAny [.word, "::", "?", .lifetime, "("]) || rules.constant && (← sees "[")

def bounds (plus : Bool) (rules : BoundRules) : CodeReader (List (BoundCode × Bool)) := do
  let first ← anyBound deeper rules
  if !plus ∨ !(← sees "+") then
    return [(first, false)]
  discard (expect "+")
  let others ← seriesUpTo "+" (return !(← seesBound rules)) (sees "+") (anyBound deeper rules)
    (← budget)
  return (first, true) :: others

def boundsCode (found : List (BoundCode × Bool)) : Code :=
  seriesCode "+" (found.map fun (bound, plus) => (bound.code, plus))

/-- Whether angle brackets hold parameters, and do not start a path. -/
def areParameters (ahead : List Lexeme) : Bool :=
  let second := Lexeme.afterTree ahead
  let third := Lexeme.afterTree second
  let seesAny (lexemes : List Lexeme) (cues : List Cue) := cues.any (·.holds lexemes)
  seesAny ahead ["<"] &&
    (seesAny second [">", "#", "const"] ||
      seesAny second [.lifetime, .name] &&
        (seesAny third [">", ",", "="] || seesAny third [":"] && !seesAny third ["::"]))

def endsCondition : CodeReader Bool := do
  return (← atEnd) || (← seesAny ["\x7b", ",", ";", "="]) || (← sees ":") && !(← sees "::")

def condition : CodeReader Code := do
  if (← sees .lifetime) && (← seesSecond ":") then
    let subject := (← lifetime) ++ (← expect ":")
    return subject ++ (← lifetimeBounds do
      return (← atEnd) || (← seesAny ["\x7b", ",", ";", ":", "="]))
  else
    let quantified ← quantifier deeper
    let subject := (← deeper.type true).code ++ (← expect ":")
    return quantified ++ subject ++ (← plainBounds deeper endsCondition)

/-- The conditions on generic parameters, if there are any; without one the keyword is dropped. -/
def conditions? : CodeReader (Option Code) := do
  if !(← sees "where") then
    return none
  let keyword ← expect "where"
  if areParameters (← ahead) then
    throw .genericWhere
  let code := seriesCode "," (← chain "," endsCondition (condition deeper))
  return some (if code.isEmpty then [] else keyword ++ code)

def conditions : CodeReader Code := do
  return (← conditions? deeper).getD []

end QueryMethods.Grammar
