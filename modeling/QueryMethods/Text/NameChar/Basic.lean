import QueryMethods.Text.Cluster.Basic
import QueryMethods.Text.NameChar.Table

/-! The characters of identifiers. -/

namespace QueryMethods.NameChar

def isStart (c : Char) : Bool :=
  c == '_' || inRanges startRuns c

def isContinuing (c : Char) : Bool :=
  isStart c || inRanges continuingRuns c || Cluster.isMark c

end QueryMethods.NameChar
