import QueryMethods.MethodName.Basic

/-! Condition trees: comparisons of a field with a parameter, joined by `AND` and `OR`. -/

namespace QueryMethods

inductive Condition where
  | equal (field : String) (param : Nat)
  | join (connector : Connector) (left right : Condition)
deriving DecidableEq

namespace Condition

def comparisons : Condition → Nat
  | .equal _ _ => 1
  | .join _ left right => left.comparisons + right.comparisons

/-- Extends a tree to the right, by one connector and comparison at a time. -/
def extend (tree : Condition) (param : Nat) : List (Connector × String) → Condition
  | [] => tree
  | (connector, field) :: rest =>
      extend (.join connector tree (.equal field param)) (param + 1) rest

/-- The tree of fields joined from the left, where field `i` is compared with parameter `i`. -/
def build? (fields : List String) (connectors : List Connector) : Option Condition :=
  match fields with
  | [] => none
  | field :: rest =>
      if rest.length = connectors.length then
        some (extend (.equal field 0) 1 (connectors.zip rest))
      else
        none

/-- The comparisons of a tree from left to right. -/
def leaves : Condition → List (String × Nat)
  | .equal field param => [(field, param)]
  | .join _ left right => left.leaves ++ right.leaves

theorem length_leaves (tree : Condition) : tree.leaves.length = tree.comparisons := by
  induction tree with
  | equal field param => rfl
  | join connector left right hleft hright => simp [leaves, comparisons, hleft, hright]

end Condition

end QueryMethods
