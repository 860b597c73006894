import QueryMethods.Declaration.Grammar.Item
import QueryMethods.Declaration.Lexeme.Text

/-!
# Whole texts

The grammar to any depth, and what is read from a whole text: paths, and bounds.
-/

namespace QueryMethods

namespace Grammar

open CodeReader

/-- The grammar of code that is nested up to a depth. -/
def ofDepth : Nat → Grammar
  | 0 => empty
  | depth + 1 =>
      let deeper := ofDepth depth
      { type := anyType deeper
        bound := anyBound deeper
        pattern := anyPattern deeper
        expr := anyExpr deeper
        operand := anyOperand deeper
        operators := anyOperators deeper
        early := earlyExpr deeper
        statements := allStatements deeper
        item := anyItem deeper
        useTree := anyUseTree deeper }

/-- A depth that lexemes cannot exceed: readers of every kind may follow each other before a lexeme
is taken, but no kind comes twice. -/
def depthOf (lexemes : List Lexeme) : Nat :=
  10 * (lexemes.length + 1)

/-- Reads all lexemes; nothing may be left, neither at the end nor before a closing bracket. -/
def read {α : Type} (reader : Grammar → CodeReader α) (lexemes : List Lexeme) :
    Except SyntaxFault α := do
  let (found, after) ← (reader (ofDepth (depthOf lexemes))).run { rest := lexemes }
  match after.leftover with
  | some c => throw (.leftover (some c))
  | none => if after.rest.isEmpty then return found else throw (.leftover none)

def ofText? {α : Type} (reader : Grammar → CodeReader α) (text : String) : Option α := do
  let lexemes ← Lexeme.ofText? text
  (read reader lexemes).toOption

end Grammar

def Path.ofText? (text : String) : Option Path :=
  Grammar.ofText? (Grammar.path · false) text

/-- What stands before the keyword of a trait. -/
structure TraitHead where
  attributes : Code
  visibility : Code
  modifiers : Code

/-- What stands between the name of a trait and its braces, after the colon. -/
structure TraitTail where
  /-- The bounds with a plus between any two of them; one behind the last is dropped. -/
  bounds : Code
  conditions : Code

namespace Grammar

open CodeReader

def traitHead (deeper : Grammar) : CodeReader TraitHead := do
  let attributes ← outerAttributes deeper
  let visibility ← visibility
  return { attributes, visibility, modifiers := (← maybe "unsafe") ++ (← maybe "auto") }

def traitTail (deeper : Grammar) : CodeReader TraitTail := do
  let found ← series "+" (return (← atEnd) || (← sees "where")) (deeper.bound {})
  return {
    bounds := separatedBy [.mark '+'] (found.map (·.1.code))
    conditions := ← conditions deeper }

def attributedReceiver (deeper : Grammar) : CodeReader Code := do
  return (← outerAttributes deeper) ++ (← receiver deeper)

def attributedPattern (deeper : Grammar) : CodeReader Code := do
  return (← outerAttributes deeper) ++ (← deeper.pattern).code

end Grammar

end QueryMethods
