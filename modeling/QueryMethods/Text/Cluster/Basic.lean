import QueryMethods.Text.Cluster.Table
import QueryMethods.Text.Range

/-!
# Clusters

A cluster is what a reader takes for one character: a character with the marks after it and the
signs before it. Scripts whose letters join in other ways have no case and no digits here, so that
their letters may stay apart.
-/

namespace QueryMethods

namespace Cluster

/-- A mark that takes no space of its own. -/
def isAttached (c : Char) : Bool :=
  inRanges attachedRuns c

/-- A mark, which belongs to the character before it. -/
def isMark (c : Char) : Bool :=
  isAttached c || inRanges spacingRuns c

/-- A sign that belongs to the character after it. -/
def isLeading (c : Char) : Bool :=
  inRanges leadingRuns c

end Cluster

def clusters : List Char → List (List Char)
  | [] => []
  | c :: rest =>
      match rest, clusters rest with
      | next :: _, cluster :: others =>
          if Cluster.isLeading c || Cluster.isMark next then (c :: cluster) :: others
          else [c] :: cluster :: others
      | _, others => [c] :: others

end QueryMethods
