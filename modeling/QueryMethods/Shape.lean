/-! What a query method gives back: at most one row, every row, or one value. -/

namespace QueryMethods

inductive Shape where
  | optional
  | list
  | scalar
deriving DecidableEq

def Shape.name : Shape → String
  | .optional => "optional"
  | .list => "list"
  | .scalar => "scalar"

def Shape.ofName? : String → Option Shape
  | "optional" => some .optional
  | "list" => some .list
  | "scalar" => some .scalar
  | _ => none

end QueryMethods
