import QueryMethods.Row

/-! The result of one call, and the readers that turn it into what the caller declared. -/

namespace QueryMethods

inductive Output where
  | optional (row : Option Row)
  | list (rows : List Row)
  | scalar (value : Value)
deriving DecidableEq

namespace Output

variable {α : Type}

def shape : Output → Shape
  | .optional _ => .optional
  | .list _ => .list
  | .scalar _ => .scalar

def unexpected (output : Output) (expected : Shape) : DecodeError :=
  ⟨"#0", .outputShape expected output.shape⟩

def toOptional (output : Output) (decode : Row → Except DecodeError α) :
    Except DecodeError (Option α) :=
  match output with
  | .optional none => .ok none
  | .optional (some row) => (decode row).map some
  | other => .error (other.unexpected .optional)

/-- Every row, read by `decode`; the first row that cannot be read decides. -/
def toList (output : Output) (decode : Row → Except DecodeError α) :
    Except DecodeError (List α) :=
  match output with
  | .list rows => rows.mapM decode
  | other => .error (other.unexpected .list)

def toScalar (output : Output) (decode : Value → Except DecodeFault α) : Except DecodeError α :=
  match output with
  | .scalar value => (decode value).mapError (⟨"#0", ·⟩)
  | other => .error (other.unexpected .scalar)

end Output

end QueryMethods
