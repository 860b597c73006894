import QueryMethods.Text.Casing.Table
import QueryMethods.Text.Cluster.Basic

/-! Capital and small letters of every script. -/

namespace QueryMethods.Casing

/-- Whether a character has another capital form. -/
def raises (c : Char) : Bool :=
  inRuns raisedRuns c

/-- The small form of a character; one capital has a small form of two characters. -/
def lowered (c : Char) : List Char :=
  if c.toNat = 0x130 then
    ['i', Char.ofNat 0x307]
  else
    match loweredRuns.find? fun (first, last, step, _) => inRun first last step c.toNat with
    | some (_, _, _, distance) => [Char.ofNat (c.toNat + distance).toNat]
    | none => [c]

/-- Whether a character has another small form. -/
def lowers (c : Char) : Bool :=
  lowered c != [c]

/-- A cluster is capital if it has another small form, but no other capital one. -/
def isCapital (cluster : List Char) : Bool :=
  cluster.any lowers && !cluster.any raises

/-- A cluster is small if it has another capital form, but no other small one. -/
def isSmall (cluster : List Char) : Bool :=
  cluster.any raises && !cluster.any lowers

def isCased (c : Char) : Bool :=
  raises c || lowers c || inRanges fixedRuns c

/-- Marks and other characters that are looked through on the way to the next letter. -/
def isIgnorable (c : Char) : Bool :=
  Cluster.isAttached c || inRanges ignorableRuns c

/-- Whether the first character that is not looked through has a case. -/
def opensCased (text : List Char) : Bool :=
  (text.dropWhile isIgnorable).head?.any isCased

/-- The small form of a text, after the text `before`, which is given from its end. A capital sigma
at the end of a word has a form of its own. -/
def loweredAfter (before : List Char) : List Char → List Char
  | [] => []
  | c :: rest =>
      let small :=
        if c.toNat = 0x3a3 then
          [Char.ofNat (if opensCased before && !opensCased rest then 0x3c2 else 0x3c3)]
        else
          lowered c
      small ++ loweredAfter (c :: before) rest

def loweredWord (word : List Char) : List Char :=
  loweredAfter [] word

end QueryMethods.Casing
