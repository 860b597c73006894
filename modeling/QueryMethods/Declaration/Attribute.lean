import QueryMethods.Declaration.Grammar.Whole
import QueryMethods.Text.Similarity

/-!
# Attributes

An attribute with arguments is read against the keys that it knows. Faults are collected in the
order of the arguments; keys that never came are reported after them.
-/

namespace QueryMethods

inductive Literal where
  | text (value : String)
  | int (value : Int)
  | bool (value : Bool)
deriving DecidableEq

namespace Literal

def code : Literal → Code
  | .text value => [.literal value]
  | .int value => QueryMethods.code (toString value)
  | .bool value => [.word (toString value)]

def kind : Literal → String
  | .text _ => "string"
  | .int _ => "int"
  | .bool _ => "bool"

end Literal

/-- One argument: a key alone, or a key and its value. -/
structure Argument where
  key : String
  value : Option Literal
deriving DecidableEq

inductive AttributeForm where
  | word
  | list (arguments : List Argument)
  | value (literal : Literal)
deriving DecidableEq

structure Attribute where
  name : String
  form : AttributeForm
deriving DecidableEq

def Argument.code (argument : Argument) : Code :=
  QueryMethods.code argument.key ++
    match argument.value with
    | none => []
    | some literal => .mark '=' :: literal.code

def Attribute.code (attr : Attribute) : Code :=
  let body := match attr.form with
    | .word => []
    | .list arguments => inParens (commaSeparated (arguments.map Argument.code))
    | .value literal => .mark '=' :: literal.code
  .mark '#' :: inBrackets (QueryMethods.code attr.name ++ body)

/-- The code after some attributes, of which the last has `depth` brackets still open. -/
def Code.afterBrackets : (depth : Nat) → Code → Code
  | 0, .mark '#' :: .mark '[' :: rest => afterBrackets 1 rest
  | 0, code => code
  | depth + 1, .mark c :: rest =>
      if (Lexeme.closing? c).isSome then afterBrackets (depth + 2) rest
      else if Lexeme.isBracket c then afterBrackets depth rest
      else afterBrackets (depth + 1) rest
  | depth + 1, _ :: rest => afterBrackets (depth + 1) rest
  | _ + 1, [] => []

def Code.afterAttributes (code : Code) : Code :=
  code.afterBrackets 0

/-- What an argument gives to its key. -/
inductive ArgumentValue where
  /-- Nothing: the key stands alone. -/
  | word
  /-- Arguments of its own. -/
  | list
  | literal (literal : Literal)
  /-- A string literal with a suffix, by its value. -/
  | suffixed (text : String)
  | path (path : Path)
  /-- An expression of another kind, or a literal of which only the kind is known. -/
  | expression (kind : String)
deriving DecidableEq

inductive ReadArgument where
  /-- A literal in place of a key. -/
  | literal
  | keyed (key : String) (value : ArgumentValue)
deriving DecidableEq

/-- An argument as it is read before others: its minus sign is then an operation, and a truth value
that stands alone is no key. -/
def Argument.read (rest : List Argument) (argument : Argument) : ReadArgument :=
  match argument.value with
  | none =>
      if argument.key = "true" ∨ argument.key = "false" then .literal
      else .keyed argument.key .word
  | some (.int (.negSucc n)) =>
      if rest.isEmpty then .keyed argument.key (.literal (.int (.negSucc n)))
      else .keyed argument.key (.expression "unary")
  | some literal => .keyed argument.key (.literal literal)

def readArguments : List Argument → List ReadArgument
  | [] => []
  | argument :: rest => argument.read rest :: readArguments rest

namespace Grammar

open CodeReader

def argumentValue (value : ExprCode) : ArgumentValue :=
  match value.kind with
  | .path path => .path path
  | .text value false => .literal (.text value)
  | .text value true => .suffixed value
  | kind => .expression kind.name

/-- The key of an argument is a path of any words. -/
def argumentKey : CodeReader String := do
  discard (maybe "::")
  let names ← namesUpTo (sees .word) "path segment" (← budget)
  return "::".intercalate names

def seesKey : CodeReader Bool := do
  return (← sees .word) || (← sees "::") && (← seesThird .word)

def readArgument (deeper : Grammar) : CodeReader ReadArgument := do
  let isTruth ← seesAny ["true", "false"]
  if (← sees .literal) && !(isTruth && (← seesSecond "=")) then
    discard literal
    return .literal
  else if ← seesKey then
    let key ← argumentKey
    if ← seesAny ["(", "[", "\x7b"] then
      discard anyGroup
      return .keyed key .list
    else if ← sees "=" then
      discard (expect "=")
      return .keyed key (argumentValue (← attributeValue deeper))
    else
      return .keyed key .word
  else
    expected ["identifier or literal"]

def argumentList (deeper : Grammar) : CodeReader (List ReadArgument) := do
  return (← series "," atEnd (readArgument deeper)).map (·.1)

end Grammar

inductive AttributeFault where
  | unexpectedType (kind : String)
  /-- An argument of another form than its key takes. -/
  | unexpectedFormat (format : String)
  | duplicateKey (key : String)
  | unknownKey (key : String) (known : List String)
  | missingKey (key : String)
  | unknownValue (text : String)
  | notArguments (name : String)
  /-- The arguments cannot be read at all. -/
  | grammar (fault : SyntaxFault)
deriving DecidableEq

def AttributeFault.message : AttributeFault → String
  | .unexpectedType kind => "Unexpected type `" ++ kind ++ "`"
  | .unexpectedFormat format => "Unexpected meta-item format `" ++ format ++ "`"
  | .duplicateKey key => "Duplicate field `" ++ key ++ "`"
  | .unknownKey key known =>
      "Unknown field: `" ++ key ++ "`. " ++
        match meantWord? key known with
        | some name => "Did you mean `" ++ name ++ "`?"
        | none =>
            "Available values: " ++ ", ".intercalate (known.map fun name => "`" ++ name ++ "`")
  | .missingKey key => "Missing field `" ++ key ++ "`"
  | .unknownValue text => "Unknown value: `" ++ text ++ "`"
  | .notArguments name => "Name-value arguments are not supported. Use #[" ++ name ++ "(...)]"
  | .grammar fault => fault.message

/-- Reads the value that an argument gives to its key. -/
abbrev ArgumentReader (α : Type) := ArgumentValue → Except AttributeFault α

namespace ArgumentReader

/-- The fault of a value that a key does not take. -/
def refuse {α : Type} : ArgumentReader α
  | .word => .error (.unexpectedFormat "word")
  | .list => .error (.unexpectedFormat "list")
  | .literal literal => .error (.unexpectedType literal.kind)
  | .suffixed _ => .error (.unexpectedType "string")
  | .path _ => .error (.unexpectedType "path")
  | .expression kind => .error (.unexpectedType kind)

def text : ArgumentReader String
  | .literal (.text value) => .ok value
  | value => refuse value

/-- A key alone means yes. -/
def flag : ArgumentReader Bool
  | .word => .ok true
  | .literal (.bool value) => .ok value
  | .literal (.text "true") => .ok true
  | .literal (.text "false") => .ok false
  | .literal (.text value) => .error (.unknownValue value)
  | value => refuse value

def path : ArgumentReader Path
  | .literal (.text value) =>
      match Path.ofText? value with
      | some path => .ok path
      | none => .error (.unknownValue value)
  | .suffixed value => .error (.unknownValue value)
  | .path path => .ok path
  | value => refuse value

end ArgumentReader

/-- A key that an attribute knows, and the check of its value. -/
structure KnownKey where
  name : String
  check : ArgumentValue → Option AttributeFault
  required : Bool

def KnownKey.of {α : Type} (name : String) (reader : ArgumentReader α) (required : Bool) :
    KnownKey :=
  { name, required, check := fun value => match reader value with
      | .ok _ => none
      | .error fault => some fault }

namespace ReadArgument

def key? : ReadArgument → Option String
  | .literal => none
  | .keyed key _ => some key

/-- The fault of one argument, after the keys that came before it. -/
def fault? (known : List KnownKey) (seen : List String) : ReadArgument → Option AttributeFault
  | .literal => some (.unexpectedFormat "literal")
  | .keyed key value =>
      match known.find? (·.name == key) with
      | none => some (.unknownKey key (known.map (·.name)))
      | some found => if seen.contains key then some (.duplicateKey key) else found.check value

end ReadArgument

/-- The faults of arguments one by one, after the keys that came before them. -/
def eachFault (known : List KnownKey) (seen : List String) :
    List ReadArgument → List AttributeFault
  | [] => []
  | argument :: rest =>
      (argument.fault? known seen).toList ++
        eachFault known (argument.key?.toList ++ seen) rest

def missingKeys (known : List KnownKey) (arguments : List ReadArgument) : List AttributeFault :=
  (known.filter fun key => key.required && !arguments.any (·.key? == some key.name)).map
    fun key => .missingKey key.name

/-- The faults of arguments, and then the keys that never came. -/
def argumentFaults (known : List KnownKey) (seen : List String) (arguments : List ReadArgument) :
    List AttributeFault :=
  eachFault known seen arguments ++ missingKeys known arguments

/-- What an argument gives to a key, if it can be read. -/
def ReadArgument.value? {α : Type} (reader : ArgumentReader α) (key : String) :
    ReadArgument → Option α
  | .literal => none
  | .keyed found value => if found = key then (reader value).toOption else none

/-- The value of a key, from the first argument that gives it one. -/
def readArgument? {α : Type} (reader : ArgumentReader α) (key : String)
    (arguments : List ReadArgument) : Option α :=
  arguments.findSome? (·.value? reader key)

end QueryMethods
