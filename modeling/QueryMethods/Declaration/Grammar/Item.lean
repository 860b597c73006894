import QueryMethods.Declaration.Grammar.Member

/-!
# Items

Declarations of every kind after their visibility, by the keyword that they begin with.
-/

namespace QueryMethods.Grammar

open CodeReader

variable (deeper : Grammar)

def usedAs : CodeReader Code := do
  let keyword ← expect "as"
  if ← seesAny [.name, "_"] then return keyword ++ (← wordCode)
  else expected ["identifier or underscore"]

/-- What a declaration of use names; each part of a group may start at the root if the group may. -/
def anyUseTree (rooted : Bool) : CodeReader Code := do
  if ← seesAny [.name, "self", "super", "crate", "try"] then
    let name ← wordCode
    if ← sees "::" then return name ++ (← expect "::") ++ (← deeper.useTree false)
    else if ← sees "as" then return name ++ (← usedAs)
    else return name
  else if ← sees "*" then
    expect "*"
  else if ← sees "\x7b" then
    enclosed '{' (commaCode do
      let root ← if rooted then maybe "::" else pure []
      return root ++ (← deeper.useTree (rooted && root.isEmpty)))
  else
    expectedOneOf [.name, "self", "super", "crate", "try", "*", "\x7b"]

def useItem : CodeReader Code := do
  let keyword ← expect "use"
  let root ← maybe "::"
  return keyword ++ root ++ (← deeper.useTree root.isEmpty) ++ (← expect ";")

def moduleItem : CodeReader Code := do
  let keywords := (← maybe "unsafe") ++ (← expect "mod")
  let head := keywords ++ (← if ← sees "try" then wordCode else nameCode)
  if ← sees ";" then return head ++ (← expect ";")
  else if ← sees "\x7b" then return head ++ (← members deeper deeper.item)
  else expectedOneOf [";", "\x7b"]

def foreignCrate : CodeReader Code := do
  let keywords := (← expect "extern") ++ (← expect "crate")
  let name ← if ← sees "self" then wordCode else nameCode
  let rename ← if ← sees "as" then do
      pure ((← expect "as") ++ (← if ← sees "_" then wordCode else nameCode))
    else
      pure []
  return keywords ++ name ++ rename ++ (← expect ";")

/-- A crate or foreign items; the latter have no visibility. -/
def foreign (modifiers : Code) : CodeReader Code := do
  if ← seesSecond "crate" then
    return modifiers ++ (← foreignCrate)
  let hasRules ← seesSecond .string
  let isModule := (← seesSecond "\x7b") || hasRules && (← seesThird "\x7b")
  if isModule ∧ modifiers.isEmpty then
    foreignModule deeper
  else if isModule then
    throw (.expected false ["`extern`"])
  else
    discard foreignRules
    let cues : List Cue := if hasRules then ["\x7b"] else ["crate", "\x7b", .string]
    expectedOneOf cues

/-- What begins with the keyword for things that cannot be checked. -/
def unchecked (modifiers : Code) : CodeReader (Option Code) := do
  if (← seesSecond "trait") || (← seesSecond "auto") && (← seesThird "trait") then
    return some (modifiers ++ (← modifiedTrait deeper))
  else if ← seesSecond "impl" then
    implementation deeper modifiers
  else if ← seesSecond "extern" then
    if modifiers.isEmpty then return some (← foreignModule deeper)
    else throw (.expected false ["`extern`"])
  else if ← seesSecond "mod" then
    return some (modifiers ++ (← moduleItem deeper))
  else
    discard (expect "unsafe")
    expectedOneOf ["trait", "auto", "impl", "extern", "mod"]

def generator : CodeReader Unit := do
  discard (return (← expect "macro") ++ (← nameCode))
  let parameters ← if ← sees "(" then anyGroup else pure []
  if ← sees "\x7b" then
    discard anyGroup
  else
    let cues : List Cue := if parameters.isEmpty then ["(", "\x7b"] else ["\x7b"]
    expectedOneOf cues

def itemCues : List Cue :=
  ["fn", "extern", "use", "static", "const", "unsafe", "mod", "type", "struct", "enum", "union",
    "trait", "auto", "impl", "default", "macro"]

def visibleItem (modifiers : Code) : CodeReader (Option Code) := do
  let shown (reader : CodeReader Code) : CodeReader (Option Code) := do
    return some (modifiers ++ (← reader))
  if ← seesFunction false then functionItem deeper modifiers
  else if ← sees "extern" then some <$> foreign deeper modifiers
  else if ← sees "use" then shown (useItem deeper)
  else if ← sees "static" then staticItem deeper modifiers
  else if ← sees "const" then valuedConstant deeper modifiers
  else if ← sees "unsafe" then unchecked deeper modifiers
  else if ← sees "mod" then shown (moduleItem deeper)
  else if ← sees "struct" then shown (structItem deeper)
  else if ← sees "enum" then shown (enumItem deeper)
  else if (← sees "union") && (← seesSecond .name) then shown (unionItem deeper)
  else if ← sees "trait" then shown (traitOrAlias deeper)
  else if (← sees "auto") && (← seesSecond "trait") then shown (modifiedTrait deeper)
  else if (← sees "impl") || (← sees "default") && !(← seesSecond "!") then
    implementation deeper modifiers
  else if ← sees "macro" then
    generator
    return none
  else if modifiers.isEmpty && (← seesAny generatedCues) then some <$> generatedItem true
  else expectedOneOf (withGenerated itemCues modifiers)

def anyItem : CodeReader Code :=
  spelledItem deeper do
    if ← seesAfterVisibility "type" then typeAlias deeper
    else visibleItem deeper (← visibility)

end QueryMethods.Grammar
