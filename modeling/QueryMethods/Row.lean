import QueryMethods.Text.Ascii
import QueryMethods.Value.Codec

/-! Rows of a result: named values in column order, where a name may come twice. -/

namespace QueryMethods

structure Row where
  columns : List (String × Value)
deriving DecidableEq

namespace Row

def push (row : Row) (column : String) (value : Value) : Row :=
  ⟨row.columns ++ [(column, value)]⟩

/-- The value of the first column of that name, up to ASCII case. -/
def value? (row : Row) (column : String) : Option Value :=
  (row.columns.find? fun entry => sameName entry.1 column).map (·.2)

/-- The value of a column, read by `decode`. -/
def get {α : Type} (row : Row) (decode : Value → Except DecodeFault α) (column : String) :
    Except DecodeError α :=
  match row.value? column with
  | some value => (decode value).mapError (⟨column, ·⟩)
  | none => .error ⟨column, .columnMissing⟩

/-- The value of the first column, read by `decode`. -/
def first {α : Type} (row : Row) (decode : Value → Except DecodeFault α) : Except DecodeError α :=
  match row.columns with
  | (column, value) :: _ => (decode value).mapError (⟨column, ·⟩)
  | [] => .error ⟨"#0", .rowEmpty⟩

/-- The value of the first column; a row without columns counts as `NULL`. -/
def firstValue (row : Row) : Value :=
  match row.columns with
  | (_, value) :: _ => value
  | [] => .null

end Row

end QueryMethods
