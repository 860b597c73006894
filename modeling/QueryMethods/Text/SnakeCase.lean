import QueryMethods.Text.Casing.Basic

/-!
# Snake case

An identifier is cut into words at underscores, between a small letter and a capital, between a
letter and a digit, and before the last capital of a run that a small letter follows. A letter
counts with its marks.
-/

namespace QueryMethods

open Casing

def isNumeral (cluster : List Char) : Bool :=
  cluster.all Char.isDigit

/-- Whether a word ends between a cluster and the clusters after it. -/
def endsWord (cluster : List Char) : List (List Char) → Bool
  | [] => false
  | next :: rest =>
      (isSmall cluster && isCapital next) ||
      ((isSmall cluster || isCapital cluster) && isNumeral next) ||
      (isNumeral cluster && (isSmall next || isCapital next)) ||
      (isCapital cluster && isCapital next && rest.head?.any isSmall)

/-- The words of clusters; two underscores have an empty word between them. -/
def identifierWords : List (List Char) → List (List Char)
  | [] => [[]]
  | cluster :: rest =>
      if cluster = ['_'] then
        [] :: identifierWords rest
      else
        match identifierWords rest with
        | word :: others =>
            if endsWord cluster rest then cluster :: word :: others
            else (cluster ++ word) :: others
        | [] => [cluster]

/-- The words in small letters, joined by underscores. -/
def snakeCase (identifier : String) : String :=
  String.ofList <| ['_'].intercalate
    ((identifierWords (clusters identifier.toList)).map loweredWord)

end QueryMethods
