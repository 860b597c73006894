import QueryMethods.Declaration.Grammar.Data

/-!
# Traits, implementations and foreign items

Declarations that hold others in braces. Each member is printed in one form, or kept as it is
spelled where it has a part that members of its kind do not have.
-/

namespace QueryMethods.Grammar

open CodeReader

def generatedCues : List Cue :=
  [.name, "self", "super", "crate", "::"]

/-- Code that a name makes in place of a declaration; behind braces no semicolon stands. -/
def generatedItem (named : Bool) : CodeReader Code := do
  let head := (← plainPath).code ++ (← expect "!")
  let name ← if named && (← seesAny [.name, "try"]) then wordCode else pure []
  let body ← anyGroup
  let ending ← if body.getLast? = some (.mark '}') then pure [] else expect ";"
  return head ++ name ++ body ++ ending

/-- The cues of declarations, with those of generated code if nothing stands before. -/
def withGenerated (cues : List Cue) (modifiers : Code) : List Cue :=
  cues ++ if modifiers.isEmpty then generatedCues else []

def seesAfterVisibility (cue : Cue) : CodeReader Bool := do
  let found ← glance do
    discard visibility
    sees cue
  return found.getD false

variable (deeper : Grammar)

/-- A declaration after its attributes, in one form or as it is spelled. -/
def spelledItem (body : CodeReader (Option Code)) : CodeReader Code := do
  let (found, spelling) ← spelled do
    let attributes ← outerAttributes deeper
    return (← body).map (attributes ++ ·)
  return found.getD spelling

def members (one : CodeReader Code) : CodeReader Code :=
  enclosed '{' do return (← innerAttributes deeper) ++ (← codeWhile (return !(← atEnd)) one)

/-- A function with its body; with a semicolon in its place it is kept as spelled. -/
def functionItem (modifiers : Code) : CodeReader (Option Code) := do
  let signature ← signature deeper false
  if ← sees ";" then
    discard (expect ";")
    return none
  else
    return some (modifiers ++ signature.code ++ (← attributedBlock deeper))

def foreignFunction (modifiers : Code) : CodeReader (Option Code) := do
  let signature ← signature deeper true
  if ← sees "\x7b" then
    discard (attributedBlock deeper)
    return none
  let ending ← expect ";"
  return if signature.isSafe then none else some (modifiers ++ signature.code ++ ending)

def foreignStatic (modifiers : Code) : CodeReader (Option Code) := do
  let safety ← if ← seesAny ["unsafe", "safe"] then wordCode else pure []
  let head := (← expect "static") ++ (← maybe "mut") ++ (← nameCode)
  let typed := (← expect ":") ++ (← deeper.type true).code
  let value ← assigned deeper
  let ending ← expect ";"
  return if safety.isEmpty ∧ value.isEmpty then some (modifiers ++ head ++ typed ++ ending)
    else none

def foreignType : CodeReader (Option Code) := do
  let found ← typeDeclaration deeper false { before := true, after := true }
  return if found.hasColon ∨ !found.definition.isEmpty then none
    else some (found.visibility ++ found.head ++ found.conditions ++ [.mark ';'])

def seesForeignStatic : CodeReader Bool := do
  return (← sees "static") || (← seesAny ["unsafe", "safe"]) && (← seesSecond "static")

def foreignItem : CodeReader Code :=
  spelledItem deeper do
    if ← seesAfterVisibility "type" then
      foreignType deeper
    else
      let modifiers ← visibility
      if ← seesFunction true then foreignFunction deeper modifiers
      else if ← seesForeignStatic then foreignStatic deeper modifiers
      else if modifiers.isEmpty && (← seesAny generatedCues) then
        return some (← generatedItem false)
      else expectedOneOf (withGenerated ["fn", "static", "type"] modifiers)

def foreignModule : CodeReader Code := do
  return (← maybe "unsafe") ++ (← foreignRules) ++ (← members deeper (foreignItem deeper))

def traitFunction : CodeReader Code := do
  let signature ← signature deeper false
  if ← sees "\x7b" then return signature.code ++ (← attributedBlock deeper)
  else if ← sees ";" then return signature.code ++ (← expect ";")
  else expectedOneOf ["\x7b", ";"]

def traitConstant : CodeReader (Option Code) := do
  if (← seesSecond .name) || (← seesSecond "_") then
    let found ← constant deeper
    return if found.isGeneric then none else some found.code
  discard (expect "const")
  if ← seesAny ["async", "unsafe", "extern"] then
    return some (← traitFunction deeper)
  expectedOneOf [.name, "_", "async", "unsafe", "extern", "fn"]

def traitType : CodeReader (Option Code) := do
  let found ← typeDeclaration deeper false { before := false, after := true }
  return if found.visibility.isEmpty then
      some (found.head ++ found.bounds ++ found.definition ++ found.conditions ++ [.mark ';'])
    else
      none

/-- What a trait declares; with a visibility or a default it is kept as spelled. -/
def traitItem : CodeReader Code :=
  spelledItem deeper do
    let modifiers := (← visibility) ++ (← maybe "default")
    let found ← if ← seesFunction false then some <$> traitFunction deeper
      else if ← sees "const" then traitConstant deeper
      else if ← sees "type" then traitType deeper
      else if modifiers.isEmpty && (← seesAny generatedCues) then some <$> generatedItem false
      else expectedOneOf (withGenerated ["fn", "const", "type"] modifiers)
    return if modifiers.isEmpty then found else none

def traitBody : CodeReader Code := do
  let bounds ← afterColon do
    return seriesCode "+" (← series "+" (seesAny ["where", "\x7b"]) do
      return (← deeper.bound {}).code)
  let conditions ← conditions deeper
  return bounds ++ conditions ++ (← members deeper (traitItem deeper))

def traitAlias : CodeReader Code := do
  let equals ← expect "="
  let bounds ← series "+" (seesAny ["where", ";"]) do
    return (← deeper.bound { constant := false }).code
  let conditions ← conditions deeper
  return equals ++ seriesCode "+" bounds ++ conditions ++ (← expect ";")

def modifiedTrait : CodeReader Code := do
  let modifiers := (← maybe "unsafe") ++ (← maybe "auto")
  return modifiers ++ (← dataHead deeper "trait") ++ (← traitBody deeper)

def traitOrAlias : CodeReader Code := do
  let head ← dataHead deeper "trait"
  if ← seesAny ["\x7b", ":", "where"] then return head ++ (← traitBody deeper)
  else if ← sees "=" then return head ++ (← traitAlias deeper)
  else expectedOneOf ["\x7b", ":", "where", "="]

def implementedType : CodeReader (Option Code) := do
  let found ← typeDeclaration deeper true { before := false, after := true }
  return if found.hasColon ∨ found.definition.isEmpty then none
    else some (found.visibility ++ found.isDefault ++ found.head ++ found.definition ++
      found.conditions ++ [.mark ';'])

def implementedItem : CodeReader Code :=
  spelledItem deeper do
    let before ← get
    let visibility ← visibility
    let isDefault ← if (← sees "default") && !(← seesSecond "!") then wordCode else pure []
    let modifiers := visibility ++ isDefault
    if ← seesFunction false then functionItem deeper modifiers
    else if ← sees "const" then valuedConstant deeper modifiers
    else if ← sees "type" then
      set before
      implementedType deeper
    else if modifiers.isEmpty && (← seesAny generatedCues) then
      return some (← generatedItem false)
    else
      let cues : List Cue := ["default", "fn", "const", "type"]
      expectedOneOf (withGenerated (if isDefault.isEmpty then cues else cues.drop 1) modifiers)

def implementation (visibility : Code) : CodeReader (Option Code) := do
  let keywords := (← maybe "default") ++ (← maybe "unsafe") ++ (← expect "impl")
  let generics ← if areParameters (← ahead) then generics deeper else pure {}
  let isConstant := (← sees "const") || (← sees "?") && (← seesSecond "const")
  if isConstant then
    discard (return (← maybe "?") ++ (← expect "const"))
  let negative ← if (← sees "!") && !(← seesSecond "\x7b") then expect "!" else pure []
  let type ← deeper.type true
  let isNamed := match type.form with
    | .path _ => true
    | _ => false
  let isFor ← sees "for"
  if !negative.isEmpty ∧ !isFor then
    throw .negativeType
  let target ← if isFor then do
      pure ((← expect "for") ++ (← deeper.type true).code)
    else
      pure []
  let conditions ← conditions deeper
  let body ← members deeper (implementedItem deeper)
  return if !visibility.isEmpty ∨ isConstant ∨ isFor ∧ !isNamed then none
    else some (keywords ++ generics.code ++ negative ++ type.code ++ target ++ conditions ++ body)

end QueryMethods.Grammar
