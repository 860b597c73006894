import QueryMethods.Declaration.Grammar.Basic
import QueryMethods.Declaration.Lexeme.Number

/-!
# Attributes and blocks

Attributes stand before what they belong to, or first in its braces. With them come the parts of
code that know neither types nor operators: plain paths, visibility, literals and blocks.
-/

namespace QueryMethods.Grammar

open CodeReader

/-- What a literal other than a string is called, by its first token. -/
def literalName : Code → String
  | .word _ :: _ => "bool"
  | .mark _ :: .constant text :: _ => if Lexeme.isFloat text.toList then "float" else "int"
  | .constant text :: _ =>
      match text.toList with
      | 'b' :: '\'' :: _ => "byte"
      | 'b' :: _ => "byte string"
      | 'c' :: _ => "unknown"
      | '\'' :: _ => "char"
      | '(' :: _ => "verbatim"
      | spelling => if Lexeme.isFloat spelling then "float" else "int"
  | _ => "unknown"

def literalExpr : CodeReader ExprCode := do
  if let ⟨.literal value, suffixed⟩ :: _ ← ahead then
    return { code := ← literal, kind := .text value suffixed }
  let code ← literal
  return { code, kind := .other (literalName code) }

/-- Names with double colons between any two of them. -/
def namesUpTo (names : CodeReader Bool) (missing : String) : Nat → CodeReader (List String)
  | 0 => return []
  | fuel + 1 => do
      if !(← names) then
        return []
      let first ← word
      if !(← sees "::") then
        return [first]
      discard (expect "::")
      let others ← namesUpTo names missing fuel
      if others.isEmpty then
        expected [missing]
      return first :: others

/-- A path of names, each of which may be an anchor of paths. -/
def plainPath : CodeReader Path := do
  let root ← maybe "::"
  let names ← namesUpTo (seesAny [.name, "super", "self", "Self", "crate"])
    "path segment after `::`" (← budget)
  if names.isEmpty then
    discard name
  return .ofNames (!root.isEmpty) names

def visibility : CodeReader Code := do
  let keyword ← maybe "pub"
  if keyword.isEmpty then
    return []
  match ← glance (within '(' ahead) with
  | some (⟨.word text, _⟩ :: others) =>
      if ["crate", "self", "super"].contains text ∧ others.isEmpty then
        return keyword ++ (← anyGroup)
      else if text = "in" then
        return keyword ++ (← enclosed '(' do return (← take 1) ++ (← plainPath).code)
      else
        return keyword
  | _ => return keyword

/-- A function may follow rules of another language. -/
def foreignRules : CodeReader Code := do
  let keyword ← maybe "extern"
  if !keyword.isEmpty ∧ (← sees .string) then
    return keyword ++ (← take 1)
  else
    return keyword

/-- Code that a name makes of any tokens, from the exclamation mark on. -/
def generatedBody : CodeReader Code := do
  return (← expect "!") ++ (← anyGroup)

def seesGenerated : CodeReader Bool := do
  return (← sees "!") && !(← sees "!=")

/-- A word for something that only the machine knows, with any arguments. -/
def builtin : CodeReader Code := do
  return (← take 1) ++ (← expect "#") ++ (← nameCode) ++
    (← enclosed '(' do take (← ahead).length)

def seesBuiltin : CodeReader Bool := do
  return (← sees "builtin") && (← seesSecond "#")

variable (deeper : Grammar)

/-- The value of an attribute: a literal that ends it, or any expression. -/
def attributeValue : CodeReader ExprCode := do
  let ending ← attempt do
    let found ← literalExpr
    if !(← atEnd) then
      expected []
    return found
  match ending with
  | some found => return found
  | none =>
      if (← sees "#") && (← seesSecond "[") then
        throw .nestedAttribute
      deeper.expr true

def attributeRest : CodeReader Code := do
  if ← seesAny ["(", "[", "\x7b"] then
    anyGroup
  else if ← sees "=" then
    return (← expect "=") ++ (← deeper.attributeValue).code
  else
    return []

def attributeBody : CodeReader Code := do
  let path ← if ← sees "unsafe" then wordCode else do pure (← plainPath).code
  return path ++ (← attributeRest deeper)

/-- The attributes before something. -/
def outerAttributes : CodeReader Code :=
  codeWhile (sees "#") do
    return (← expect "#") ++ (← enclosed '[' (attributeBody deeper))

/-- The attributes of what is around them. -/
def innerAttributes : CodeReader Code :=
  codeWhile (return (← sees "#") && (← seesSecond "!")) do
    return (← expect "#") ++ (← expect "!") ++ (← enclosed '[' (attributeBody deeper))

def block : CodeReader Code :=
  enclosed '{' deeper.statements

def attributedBlock : CodeReader Code :=
  enclosed '{' do return (← innerAttributes deeper) ++ (← deeper.statements)

end QueryMethods.Grammar
