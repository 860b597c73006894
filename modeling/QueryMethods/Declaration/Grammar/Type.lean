import QueryMethods.Declaration.Grammar.Bound

/-!
# Types

Bounds that a plus adds belong to a type only where they are allowed to. A path with bounds behind
it is the type of all objects with these traits.
-/

namespace QueryMethods.Grammar

open CodeReader

variable (deeper : Grammar)

/-- The type of objects with some traits, of which there has to be one at least. -/
def objectBounds (plus : Bool) : CodeReader Code := do
  let found ← bounds deeper plus { constant := false }
  if found.all (·.1.form == .lifetime) then
    throw .lifetimesOnly
  return boundsCode found

/-- A type that is known by its traits only. -/
def hiddenType (plus : Bool) : CodeReader Code := do
  let keyword ← expect "impl"
  let found ← bounds deeper plus { capture := true }
  if found.all fun (bound, _) => bound.form == .lifetime || bound.form == .capture then
    throw .noTrait
  return keyword ++ boundsCode found

/-- The bounds behind one in parentheses; after each plus there has to be one. -/
def addedBounds : CodeReader Code :=
  codeWhile (sees "+") do
    return (← expect "+") ++ (← anyBound deeper { constant := false }).code

/-- What stands in the parentheses of a type. -/
inductive ParenthesizedType where
  /-- Several types, or none. -/
  | tuple (code : Code)
  /-- An object type that starts with a lifetime. -/
  | objects (code : Code)
  /-- A bound that need not hold. -/
  | option (code : Code)
  | one (type : TypeCode)

def parenthesizedType : CodeReader ParenthesizedType := do
  if ← atEnd then
    return .tuple []
  else if ← sees .lifetime then
    return .objects (← objectBounds deeper true)
  else if ← sees "?" then
    return .option (← traitBound deeper { constant := false }).code
  else
    let first ← deeper.type true
    if ← sees "," then
      let comma ← expect ","
      return .tuple (first.code ++ comma ++ (← commaCode do return (← deeper.type true).code))
    else
      return .one first

/-- A tuple, a type or bounds of which the first is in parentheses. -/
def groupedType (plus : Bool) : CodeReader TypeCode := do
  match ← within '(' (parenthesizedType deeper) with
  | .tuple code => return { code := inParens code }
  | .objects code => return { code := inParens code }
  | .option code =>
      let others ← addedBounds deeper
      let form := if others.isEmpty then .bound code else .other
      return { code := inParens code ++ others, form }
  | .one type =>
      let alone : Option Code := match type.form with
        | .path _ => some type.code
        | .bound inner => some inner
        | .other => none
      match alone with
      | some inner =>
          if plus && (← sees "+") then
            return { code := inParens inner ++ (← addedBounds deeper) }
          else
            return { code := inParens type.code }
      | none => return { code := inParens type.code }

/-- A slice or an array. -/
def bracketedType : CodeReader Code :=
  enclosed '[' do
    let element ← deeper.type true
    if ← sees ";" then
      return element.code ++ (← expect ";") ++ (← deeper.expr true).code
    else
      return element.code

/-- A parameter of a function pointer; its name is optional. The first may be a receiver. -/
def pointerParameter (first : Bool) : CodeReader Code := do
  let (parameter, spelling) ← spelled do
    let changes := first && (← sees "mut") && (← seesSecond "self")
    if changes then
      discard (expect "mut")
    let isSelf := first && (← sees "self")
    let isNamed := (← seesAny [.name, "_"]) || isSelf
    if isNamed && (← seesSecond ":") && !(← seesSecond "::") then
      let name := (← wordCode) ++ (← expect ":")
      let type ← deeper.type true
      return if changes then none else some (name ++ type.code)
    else if changes then
      discard (expect "self")
      return none
    else
      return some (← deeper.type true).code
  return parameter.getD spelling

/-- Whether any number of further arguments comes, perhaps under a name. -/
def seesMore : CodeReader Bool := do
  if ← sees "..." then
    return true
  else
    return (← seesAny [.name, "_"]) && (← seesSecond ":") && (← seesThird "...")

def more : CodeReader Code := do
  let name ← if ← sees "..." then pure [] else do pure ((← wordCode) ++ (← expect ":"))
  return name ++ (← expect "...") ++ (← maybe ",")

def pointerParameters : Bool → Nat → CodeReader Code
  | _, 0 => return []
  | first, fuel + 1 => do
      if ← atEnd then
        return []
      let attributes ← outerAttributes deeper
      if ← seesMore then
        return attributes ++ (← more)
      let parameter := attributes ++ (← pointerParameter deeper first)
      if ← atEnd then
        return parameter
      let comma ← expect ","
      return parameter ++ comma ++ (← pointerParameters false fuel)

def functionPointer : CodeReader Code := do
  let keywords := (← maybe "unsafe") ++ (← foreignRules) ++ (← expect "fn")
  let parameters ← enclosed '(' do pointerParameters deeper true (← budget)
  return keywords ++ parameters ++ (← result deeper false)

def referenceType : CodeReader Code := do
  let mark ← expect "&"
  let lifetime ← if ← sees .lifetime then lifetime else pure []
  let change ← maybe "mut"
  return mark ++ lifetime ++ change ++ (← deeper.type false).code

def pointerType : CodeReader Code := do
  let mark ← expect "*"
  let qualifier ← if ← seesAny ["const", "mut"] then wordCode else expectedOneOf ["const", "mut"]
  return mark ++ qualifier ++ (← deeper.type false).code

/-- A type that a path names, or the bounds or the generated code that the path begins. -/
def namedType (plus : Bool) (quantified : Code) : CodeReader TypeCode := do
  let named ← ownedPath deeper false
  let isPlain := named.path.segments.all (·.args.isEmpty)
  if named.isOwned then
    return { code := named.code }
  else if isPlain && (← seesGenerated) then
    return { code := named.code ++ (← generatedBody) }
  else if !quantified.isEmpty || plus && (← sees "+") then
    let code := quantified ++ named.code
    if plus && (← sees "+") then
      let plusCode ← expect "+"
      let others ← seriesUpTo "+" (return !(← seesBound { constant := false })) (sees "+")
        (anyBound deeper { constant := false }) (← budget)
      return { code := code ++ plusCode ++ boundsCode others }
    else
      return { code, form := .bound code }
  else
    let isName := !named.path.rooted && named.path.segments.length == 1
    return { code := named.code, form := .path isName }

/-- What may come after the parameters of a quantified type. -/
def quantifiedCues : List Cue :=
  [.name, "fn", "unsafe", "extern", "super", "self", "Self", "crate"]

def typeCues : List Cue :=
  ["(", "fn", "unsafe", "extern", .name, "::", "<", "dyn", "[", "*", "&", "!", "impl", "_",
    .lifetime]

def anyType (plus : Bool) : CodeReader TypeCode := do
  let (found, spelling) ← spelled do
    let quantified ← quantifier deeper
    if !quantified.isEmpty ∧ !(← seesAny quantifiedCues) then
      expectedOneOf quantifiedCues
    if ← seesAny ["fn", "unsafe", "extern"] then
      return some { code := quantified ++ (← functionPointer deeper) }
    else if ← seesBuiltin then
      discard builtin
      return none
    else if ← seesAny [.name, "super", "self", "Self", "crate", "::", "<"] then
      return some (← namedType deeper plus quantified)
    else if ← sees "(" then
      return some (← groupedType deeper plus)
    else if ← sees "dyn" then
      let keyword ← expect "dyn"
      let star ← maybe "*"
      let bounds ← objectBounds deeper plus
      return if star.isEmpty then some { code := keyword ++ bounds } else none
    else if ← sees "[" then
      return some { code := ← bracketedType deeper }
    else if ← sees "*" then
      return some { code := ← pointerType deeper }
    else if ← sees "&" then
      return some { code := ← referenceType deeper }
    else if ← sees "!" then
      return some { code := ← expect "!" }
    else if ← sees "impl" then
      return some { code := ← hiddenType deeper plus }
    else if ← sees "_" then
      return some { code := ← expect "_" }
    else if ← sees .lifetime then
      return some { code := ← objectBounds deeper true }
    else
      expectedOneOf ("for" :: typeCues)
  return found.getD { code := spelling }

end QueryMethods.Grammar
