import QueryMethods.Declaration.Grammar.Signature

/-!
# Constants and data

Declarations of constants, of other names for types, and of data. A declaration that leaves a part
out, or has one too many, is kept as it is spelled: for such a one a reader answers with nothing.
-/

namespace QueryMethods.Grammar

open CodeReader

variable (deeper : Grammar)

def assigned : CodeReader Code := do
  if ← sees "=" then
    return (← expect "=") ++ (← deeper.expr true).code
  else
    return []

structure ConstantCode where
  code : Code
  /-- Whether it has generic parameters or conditions on them. -/
  isGeneric : Bool
  hasValue : Bool

def constant : CodeReader ConstantCode := do
  let keyword ← expect "const"
  let name ← if ← seesAny [.name, "_"] then wordCode else expectedOneOf [.name, "_"]
  let generics ← generics deeper
  let typed := (← expect ":") ++ (← deeper.type true).code
  let value ← assigned deeper
  let conditions ← conditions? deeper
  let ending ← expect ";"
  return {
    code := keyword ++ name ++ generics.code ++ typed ++ value ++ conditions.getD [] ++ ending
    isGeneric := generics.isPresent || conditions.isSome
    hasValue := !value.isEmpty }

def valuedConstant (modifiers : Code) : CodeReader (Option Code) := do
  let found ← constant deeper
  return if found.isGeneric ∨ !found.hasValue then none else some (modifiers ++ found.code)

def staticItem (modifiers : Code) : CodeReader (Option Code) := do
  let head := (← expect "static") ++ (← maybe "mut") ++ (← nameCode)
  let typed ← if ← sees "=" then pure [] else do
    pure ((← expect ":") ++ (← deeper.type true).code)
  let value ← if ← sees ";" then pure [] else do
    pure ((← expect "=") ++ (← deeper.expr true).code)
  let ending ← expect ";"
  return if typed.isEmpty ∨ value.isEmpty then none
    else some (modifiers ++ head ++ typed ++ value ++ ending)

/-- Where the conditions of a declared type may stand. -/
structure ConditionPlace where
  before : Bool
  after : Bool

structure TypeDeclaration where
  visibility : Code
  isDefault : Code
  head : Code
  hasColon : Bool
  bounds : Code
  conditions : Code
  definition : Code

def typeDeclaration (isDefault : Bool) (place : ConditionPlace) : CodeReader TypeDeclaration := do
  let visibility ← visibility
  let isDefault ← if isDefault then maybe "default" else pure []
  let head := (← expect "type") ++ (← nameCode) ++ (← generics deeper).code
  let hasColon ← sees ":"
  let bounds ← afterColon do
    return seriesCode "+" (← series "+" (seesAny ["where", "=", ";"]) do
      return (← deeper.bound {}).code)
  let before ← if place.before then conditions? deeper else pure none
  let definition ← if ← sees "=" then do
      pure ((← expect "=") ++ (← deeper.type true).code)
    else
      pure []
  let conditions ← if place.after ∧ before.isNone then conditions? deeper else pure before
  discard (expect ";")
  return { visibility, isDefault, head, hasColon, bounds, definition
           conditions := conditions.getD [] }

def typeAlias : CodeReader (Option Code) := do
  let found ← typeDeclaration deeper false { before := true, after := false }
  return if found.hasColon ∨ found.definition.isEmpty then none
    else some (found.visibility ++ found.head ++ found.conditions ++ found.definition ++
      [.mark ';'])

/-- A field with a name. One without a name may hold fields itself, which `inner` reads. -/
def namedField (inner : CodeReader Code) : CodeReader Code := do
  let head := (← outerAttributes deeper) ++ (← visibility)
  let isBlank ← sees "_"
  let name := (← if isBlank then wordCode else nameCode) ++ (← expect ":")
  if isBlank && ((← sees "struct") || (← sees "union") && (← seesSecond "\x7b")) then
    let (_, spelling) ← spelled do
      discard word
      discard inner
    return head ++ name ++ spelling
  else
    return head ++ name ++ (← deeper.type true).code

def namedFieldsTo : (depth : Nat) → CodeReader Code
  | 0 => expected []
  | depth + 1 => enclosed '{' (commaCode (namedField deeper (namedFieldsTo depth)))

def namedFields : CodeReader Code := do
  namedFieldsTo deeper (← budget)

def plainFields : CodeReader Code :=
  enclosed '(' (commaCode do
    return (← outerAttributes deeper) ++ (← visibility) ++ (← deeper.type true).code)

/-- The keyword, the name and the generic parameters of data. -/
def dataHead (keyword : String) : CodeReader Code := do
  return (← expect keyword) ++ (← nameCode) ++ (← generics deeper).code

/-- Fields in parentheses, after which the conditions stand. -/
def plainBody : CodeReader Code := do
  let fields ← plainFields deeper
  let conditions ← conditions? deeper
  if ← sees ";" then
    return fields ++ conditions.getD [] ++ (← expect ";")
  else
    let cues : List Cue := if conditions.isNone then ["where", ";"] else [";"]
    expectedOneOf cues

def structItem : CodeReader Code := do
  let head ← dataHead deeper "struct"
  let conditions ← conditions? deeper
  if conditions.isNone && (← sees "(") then
    return head ++ (← plainBody deeper)
  else if ← sees "\x7b" then
    return head ++ conditions.getD [] ++ (← namedFields deeper)
  else if ← sees ";" then
    return head ++ conditions.getD [] ++ (← expect ";")
  else
    let cues : List Cue := ["where", "(", "\x7b", ";"]
    expectedOneOf (if conditions.isNone then cues else cues.drop 2)

/-- One of the forms of an enumeration; its visibility is dropped. -/
def variant : CodeReader Code := do
  let attributes ← outerAttributes deeper
  discard visibility
  let name ← nameCode
  let fields ← if ← sees "\x7b" then namedFields deeper
    else if ← sees "(" then plainFields deeper
    else pure []
  return attributes ++ name ++ fields ++ (← assigned deeper)

def enumItem : CodeReader Code := do
  let head ← dataHead deeper "enum"
  let conditions ← conditions deeper
  return head ++ conditions ++ (← enclosed '{' (commaCode (variant deeper)))

def unionItem : CodeReader Code := do
  let head ← dataHead deeper "union"
  let conditions ← conditions deeper
  return head ++ conditions ++ (← namedFields deeper)

end QueryMethods.Grammar
