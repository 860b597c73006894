import QueryMethods.Declaration.Token

/-! Identifiers, which may be raw, and the paths that they form. -/

namespace QueryMethods

/-- The words that name nothing. -/
def reservedWords : List String :=
  ["abstract", "as", "async", "await", "become", "box", "break", "const", "continue", "do", "dyn",
    "else", "enum", "extern", "false", "final", "fn", "for", "if", "impl", "in", "let", "loop",
    "macro", "match", "mod", "move", "mut", "override", "priv", "pub", "ref", "return", "static",
    "struct", "trait", "true", "type", "typeof", "unsafe", "unsized", "use", "virtual", "where",
    "while", "yield", "_"]

/-- The words that stand in a path as they are, without arguments. -/
def anchorWords : List String :=
  ["crate", "self", "super", "try"]

def isName (text : String) : Bool :=
  !reservedWords.contains text && !anchorWords.contains text && text != "Self"

/-- The name of an identifier, without the mark of a raw one. -/
def plainName (identifier : String) : String :=
  match identifier.toList with
  | 'r' :: '#' :: rest => String.ofList rest
  | _ => identifier

structure PathSegment where
  name : String
  /-- The arguments with their brackets. -/
  args : Code := []
deriving DecidableEq

def PathSegment.code (segment : PathSegment) : Code :=
  .word segment.name :: segment.args

structure Path where
  /-- Whether the path starts at the root. -/
  rooted : Bool
  segments : List PathSegment
deriving DecidableEq

namespace Path

/-- A path whose segments have no arguments. -/
def ofNames (rooted : Bool) (names : List String) : Path :=
  ⟨rooted, names.map (⟨·, []⟩)⟩

def separator : Code :=
  [.mark ':', .mark ':']

def code (path : Path) : Code :=
  (if path.rooted then separator else []) ++
    separatedBy separator (path.segments.map PathSegment.code)

/-- The name of the last segment. -/
def last? (path : Path) : Option String :=
  path.segments.getLast?.map (·.name)

end Path

end QueryMethods
