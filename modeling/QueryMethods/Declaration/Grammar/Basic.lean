import QueryMethods.Declaration.Grammar.Reader

/-!
# The grammar

Types, bounds, patterns, expressions, statements and items hold each other. The readers of one kind
are given those of all kinds for what is nested deeper, as one record, so that every module needs
only what it is about. What is read is printed in one form at once.
-/

namespace QueryMethods

/-- What a type may be besides a type. -/
inductive TypeForm where
  /-- A path; `isName` if it is one segment, which may be given a value or bounds. -/
  | path (isName : Bool)
  /-- One bound, by its code without parentheses. -/
  | bound (inner : Code)
  | other
deriving DecidableEq

structure TypeCode where
  code : Code
  form : TypeForm := .other

/-- What may stand among bounds. -/
structure BoundRules where
  /-- Whether a bound may list what it captures. -/
  capture : Bool := false
  /-- Whether a bound may be constant. -/
  constant : Bool := true

inductive BoundForm where
  | lifetime
  | capture
  | trait
  | constantTrait
deriving DecidableEq

structure BoundCode where
  code : Code
  form : BoundForm

inductive PatternForm where
  /-- Two points alone. -/
  | rest
  | openRange
  | asSpelled
  | other
deriving DecidableEq

structure PatternCode where
  code : Code
  form : PatternForm := .other

/-- What an expression is, as far as the grammar or a message tells expressions apart. -/
inductive ExprKind where
  | path (path : Path)
  /-- A string literal by its value, and whether it has a suffix. -/
  | text (value : String) (suffixed : Bool)
  | comparison
  | range
  /-- Code that another name makes, in braces or in other brackets. -/
  | generated (braced : Bool)
  /-- What ends a statement without a semicolon, by its name. -/
  | block (name : String)
  /-- What is kept as it is spelled. -/
  | asSpelled
  | other (name : String)
deriving DecidableEq

namespace ExprKind

def name : ExprKind → String
  | .path _ => "path"
  | .text _ _ => "string"
  | .comparison => "binary"
  | .range => "range"
  | .generated _ => "macro"
  | .block name => name
  | .asSpelled => "verbatim"
  | .other name => name

def isBlock : ExprKind → Bool
  | .block _ => true
  | _ => false

end ExprKind

structure ExprCode where
  code : Code
  kind : ExprKind
  /-- Whether attributes before the expression are lost, as its first operand is kept as spelled. -/
  losesAttributes : Bool := false

/-- How strongly an operator binds, from the loosest on. -/
inductive Precedence where
  | jump
  | assign
  | range
  | or
  | and
  | binding
  | compare
  | bitOr
  | bitXor
  | bitAnd
  | shift
  | sum
  | product
  | cast
deriving DecidableEq

namespace Precedence

def rank : Precedence → Nat
  | .jump => 0
  | .assign => 1
  | .range => 2
  | .or => 3
  | .and => 4
  | .binding => 5
  | .compare => 6
  | .bitOr => 7
  | .bitXor => 8
  | .bitAnd => 9
  | .shift => 10
  | .sum => 11
  | .product => 12
  | .cast => 13

end Precedence

structure Grammar where
  /-- A type, with all bounds that a plus adds to it or without. -/
  type : (plus : Bool) → CodeReader TypeCode
  bound : BoundRules → CodeReader BoundCode
  pattern : CodeReader PatternCode
  /-- An expression; `structs` if a brace after a path may open its fields. -/
  expr : (structs : Bool) → CodeReader ExprCode
  /-- An expression without binary operators. -/
  operand : (structs : Bool) → CodeReader ExprCode
  /-- The operators after a left operand that bind as strongly as one of them at least. -/
  operators : (structs : Bool) → ExprCode → Precedence → CodeReader ExprCode
  /-- An expression that a block ends early, as in a statement. -/
  early : CodeReader ExprCode
  statements : CodeReader Code
  item : CodeReader Code
  /-- What a declaration of use names. -/
  useTree : (rooted : Bool) → CodeReader Code

namespace Grammar

def empty : Grammar where
  type _ := CodeReader.expected []
  bound _ := CodeReader.expected []
  pattern := CodeReader.expected []
  expr _ := CodeReader.expected []
  operand _ := CodeReader.expected []
  operators _ _ _ := CodeReader.expected []
  early := CodeReader.expected []
  statements := CodeReader.expected []
  item := CodeReader.expected []
  useTree _ := CodeReader.expected []

end Grammar

end QueryMethods
