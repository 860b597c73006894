import QueryMethods.Shape

/-! The parts of a query method's name: a verb, then fields joined by connectors. -/

namespace QueryMethods

/-- What a name asks for. -/
inductive Verb where
  | findBy
  | getBy
  | findAllBy
  | getAllBy
  | countBy
deriving DecidableEq

namespace Verb

def all : List Verb :=
  [.findAllBy, .getAllBy, .findBy, .getBy, .countBy]

def name : Verb → String
  | .findBy => "find_by"
  | .getBy => "get_by"
  | .findAllBy => "find_all_by"
  | .getAllBy => "get_all_by"
  | .countBy => "count_by"

/-- The text that a name with this verb opens with. -/
def opening (verb : Verb) : List Char :=
  (verb.name ++ "_").toList

/-- The result that the verb demands. -/
def shape : Verb → Shape
  | .findBy | .getBy => .optional
  | .findAllBy | .getAllBy => .list
  | .countBy => .scalar

end Verb

inductive Connector where
  | and
  | or
deriving DecidableEq

namespace Connector

def keyword : Connector → String
  | .and => "AND"
  | .or => "OR"

/-- How a method name writes the connector. -/
def infixed : Connector → List Char
  | .and => "_and_".toList
  | .or => "_or_".toList

end Connector

structure MethodName where
  verb : Verb
  fields : List String
  connectors : List Connector
deriving DecidableEq

/-- Why a name is unfit for its method. -/
inductive NameFault where
  | emptyField (position : Nat)
  | arity (fields params : Nat)
  | misnamed (field param : String) (position : Nat)
  | shape (expected found : Shape)
deriving DecidableEq

def NameFault.message : NameFault → String
  | .emptyField position => "empty field token at position " ++ toString position
  | .arity fields params =>
      "name has " ++ toString fields ++ " field token(s) but the method declares " ++
        toString params ++ " parameter(s)"
  | .misnamed field param position =>
      "field token `" ++ field ++ "` does not match parameter `" ++ param ++ "` at position " ++
        toString position
  | .shape expected found =>
      "prefix requires a " ++ expected.name ++ " result but the method returns " ++ found.name

end QueryMethods
