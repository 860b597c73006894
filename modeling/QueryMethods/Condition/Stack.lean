import QueryMethods.Condition.Basic

/-!
# Building conditions on a stack

A condition can be built on a stack of trees, which holds the comparisons of the fields with the
first one on top. Every connector takes two trees off, the left operand first, and puts their join
in their place.
-/

namespace QueryMethods.Condition

/-- Trees, the top first. -/
abbrev Stack := List Condition

namespace Stack

def push (stack : Stack) (tree : Condition) : Stack :=
  tree :: stack

/-- The top, and the stack below it; nothing can be taken off an empty stack. -/
def pop? : Stack → Option (Condition × Stack)
  | [] => none
  | tree :: rest => some (tree, rest)

/-- The comparisons of fields with the parameters from `param` on, put on from the last. -/
def ofFields (param : Nat) : List String → Stack
  | [] => []
  | field :: rest => (ofFields (param + 1) rest).push (.equal field param)

def join? (connector : Connector) (stack : Stack) : Option Stack := do
  let (left, stack) ← stack.pop?
  let (right, stack) ← stack.pop?
  some (stack.push (.join connector left right))

/-- Joins for each connector; two trees are missing for one of them if there is no result. -/
def joinAll? : List Connector → Stack → Option Stack
  | [], stack => some stack
  | connector :: rest, stack => (stack.join? connector).bind (joinAll? rest)

/-- The tree of a stack that holds no other. -/
def root? (stack : Stack) : Option Condition :=
  match stack.pop? with
  | some (tree, []) => some tree
  | _ => none

theorem join?_of_pop? {stack middle rest : Stack} {left right : Condition}
    (hleft : stack.pop? = some (left, middle)) (hright : middle.pop? = some (right, rest))
    (connector : Connector) :
    stack.join? connector = some (rest.push (.join connector left right)) := by
  simp only [join?, hleft, hright, Option.bind_eq_bind, Option.bind_some]

end Stack

/-- The tree of fields joined on a stack, where field `i` is compared with parameter `i`. -/
def buildOnStack? (fields : List String) (connectors : List Connector) : Option Condition :=
  if fields.length = connectors.length + 1 then
    ((Stack.ofFields 0 fields).joinAll? connectors).bind Stack.root?
  else
    none

end QueryMethods.Condition
