/-! What keeps tokens from being code. -/

namespace QueryMethods

inductive SyntaxFault where
  /-- None of some things comes next; `atEnd` if nothing does. -/
  | expected (atEnd : Bool) (things : List String)
  | missingMark (mark : String)
  /-- A word that names nothing stands for a name. -/
  | reservedWord (word : String)
  /-- Tokens are left before a closing mark, or before the end. -/
  | leftover (closing : Option Char)
  | chainedComparison
  /-- A cast is followed by what binds closer. -/
  | castFollowedBy (what : String)
  | bareLabel
  | attributedRange
  | nestedAttribute
  | openRangeInSlice
  | lifetimesOnly
  | noTrait
  | misplacedCapture
  /-- A bound says that a trait is constant where it may not. -/
  | misplacedConst (spelling : String)
  | quantifiedOption
  | genericWhere
  /-- A receiver comes after other parameters, or after another receiver. -/
  | misplacedReceiver (second : Bool)
  /-- What a type itself can do is declared not to hold. -/
  | negativeType
  | suffixedIndex
  | hugeIndex
  | negativeIndex
deriving DecidableEq

namespace SyntaxFault

/-- A choice of things in words. -/
def choice : List String → String
  | [] => ""
  | [thing] => "expected " ++ thing
  | [first, second] => "expected " ++ first ++ " or " ++ second
  | things => "expected one of: " ++ ", ".intercalate things

def message : SyntaxFault → String
  | .expected true [] => "unexpected end of input"
  | .expected false [] => "unexpected token"
  | .expected true things => "unexpected end of input, " ++ choice things
  | .expected false things => choice things
  | .missingMark mark => "expected `" ++ mark ++ "`"
  | .reservedWord word => "expected identifier, found keyword `" ++ word ++ "`"
  | .leftover none => "unexpected token"
  | .leftover (some c) => "unexpected token, expected `" ++ String.singleton c ++ "`"
  | .chainedComparison => "comparison operators cannot be chained"
  | .castFollowedBy what => "casts cannot be followed by " ++ what
  | .bareLabel => "parentheses required"
  | .attributedRange => "attributes are not allowed on range expressions starting with `..`"
  | .nestedAttribute => "unexpected attribute inside of attribute"
  | .openRangeInSlice => "range pattern is not allowed unparenthesized inside slice pattern"
  | .lifetimesOnly => "at least one trait is required for an object type"
  | .noTrait => "at least one trait must be specified"
  | .misplacedCapture => "`use<...>` precise capturing syntax is not allowed here"
  | .misplacedConst spelling => "`" ++ spelling ++ "` is not allowed here"
  | .quantifiedOption => "`for<...>` binder not allowed with `?` trait polarity modifier"
  | .genericWhere => "generic parameters on `where` clauses are reserved for future use"
  | .misplacedReceiver true => "unexpected second method receiver"
  | .misplacedReceiver false => "unexpected method receiver"
  | .negativeType => "inherent impls cannot be negative"
  | .suffixedIndex => "expected unsuffixed integer"
  | .hugeIndex => "number too large to fit in target type"
  | .negativeIndex => "invalid digit found in string"

end SyntaxFault

end QueryMethods
