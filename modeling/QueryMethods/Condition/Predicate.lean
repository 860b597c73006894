import QueryMethods.Condition.Basic
import QueryMethods.Dialect
import QueryMethods.Value.Basic

/-! The SQL text of a condition. A comparison with `NULL` is written `IS NULL` and binds nothing. -/

namespace QueryMethods

/-- SQL text, and the parameter behind each of its marker slots. -/
structure Predicate where
  sql : String
  binds : List Nat
deriving DecidableEq

def Predicate.parenthesized (predicate : Predicate) : Predicate :=
  { predicate with sql := "(" ++ predicate.sql ++ ")" }

def Predicate.join (connector : Connector) (left right : Predicate) : Predicate :=
  { sql := left.sql ++ " " ++ connector.keyword ++ " " ++ right.sql
    binds := left.binds ++ right.binds }

namespace Condition

/-- An operand that is itself a compound goes in parentheses. -/
def asOperand : Condition → Predicate → Predicate
  | .equal _ _, predicate => predicate
  | .join _ _ _, predicate => predicate.parenthesized

/-- The text of a condition whose first marker slot comes after `used` others. -/
def renderFrom (dialect : Dialect) (args : List Value) : Condition → Nat → Predicate
  | .equal field param, used =>
      if args[param]? = some .null then
        ⟨field ++ " IS NULL", []⟩
      else
        ⟨field ++ " = " ++ dialect.marker (used + 1), [param]⟩
  | .join connector left right, used =>
      let first := left.renderFrom dialect args used
      let second := right.renderFrom dialect args (used + first.binds.length)
      .join connector (left.asOperand first) (right.asOperand second)

/-- The text for the given arguments; a parameter without an argument is not `NULL`. -/
def render (condition : Condition) (dialect : Dialect) (args : List Value) : Predicate :=
  condition.renderFrom dialect args 0

end Condition

end QueryMethods
