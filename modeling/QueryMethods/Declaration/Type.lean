import QueryMethods.Declaration.Identifier

/-!
# Types in source code

What a type is meant to be is read off the last segment of its path alone, so that a type may be
named by any path.
-/

namespace QueryMethods

inductive TypeExpr where
  /-- A path, perhaps within another type, whose last segment may have arguments. -/
  | path (owner : Option TypeExpr) (name : Path) (args : Option (List TypeExpr))
  | reference (target : TypeExpr)
  | slice (element : TypeExpr)
  | tuple (elements : List TypeExpr)

namespace TypeExpr

def named (name : String) : TypeExpr :=
  .path none (.ofNames false [name]) none

mutual

def code : TypeExpr → Code
  | .path owner name args => ownerCode owner ++ name.code ++ argsCode args
  | .reference target => .mark '&' :: target.code
  | .slice element => inBrackets element.code
  | .tuple elements => inParens (elementsCode elements)

/-- The type that a path starts in, in angle brackets. -/
def ownerCode : Option TypeExpr → Code
  | none => []
  | some owner => inAngles owner.code ++ Path.separator

def argsCode : Option (List TypeExpr) → Code
  | none => []
  | some args => inAngles (listCode args)

/-- Types with commas between them. -/
def listCode : List TypeExpr → Code
  | [] => []
  | [type] => type.code
  | type :: rest => type.code ++ .mark ',' :: listCode rest

/-- Types with a comma after each. -/
def elementsCode : List TypeExpr → Code
  | [] => []
  | type :: rest => type.code ++ .mark ',' :: elementsCode rest

end

/-- The first argument of a type whose path ends in `name`. -/
def argumentOf? (name : String) : TypeExpr → Option TypeExpr
  | .path none own (some (first :: _)) => if own.last? = some name then some first else none
  | _ => none

def optionInner? : TypeExpr → Option TypeExpr :=
  argumentOf? "Option"

def vecInner? : TypeExpr → Option TypeExpr :=
  argumentOf? "Vec"

def resultOk? : TypeExpr → Option TypeExpr :=
  argumentOf? "Result"

/-- Whether a type without arguments ends in the same word as a path. -/
def names (target : Path) : TypeExpr → Bool
  | .path none own none => own.last?.isSome && own.last? == target.last?
  | _ => false

end TypeExpr

end QueryMethods
