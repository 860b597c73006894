import QueryMethods.Declaration.Type
import QueryMethods.Value.Codec

/-! The types that source code names: a column type by the last word of its path, under options. -/

namespace QueryMethods

/-- The column types that are named by one word. -/
def ColumnType.ofWord? : String → Option ColumnType
  | "bool" => some .bool
  | "i16" => some .int16
  | "i32" => some .int32
  | "i64" => some .int64
  | "f32" => some .float32
  | "f64" => some .float64
  | "String" => some .text
  | "Uuid" => some .uuid
  | _ => none

namespace TypeExpr

def columnType? : TypeExpr → Option ColumnType
  | .path none own none => own.last?.bind ColumnType.ofWord?
  | .path none own (some [.path none zone none]) =>
      if own.last? = some "DateTime" ∧ zone.last? = some "Utc" then some .timestamp else none
  | .reference (.path none own none) => if own.last? = some "str" then some .text else none
  | _ => none

def resultBase? (type : TypeExpr) : Option ResultBase :=
  match type with
  | .tuple [] => some .unit
  | .path none own none =>
      if own.last? = some "u64" then some .count else type.columnType?.map .column
  | _ => type.columnType?.map .column

theorem sizeOf_lt_of_optionInner? {type inner : TypeExpr} (h : type.optionInner? = some inner) :
    sizeOf inner < sizeOf type := by
  simp only [optionInner?, argumentOf?] at h
  split at h
  · split at h
    · simp only [Option.some.injEq] at h
      subst h
      simp only [path.sizeOf_spec, Option.some.sizeOf_spec, List.cons.sizeOf_spec]
      omega
    · contradiction
  · contradiction

/-- The type inside all options, and their number. -/
def stripOptions (type : TypeExpr) : TypeExpr × Nat :=
  match _h : type.optionInner? with
  | none => (type, 0)
  | some inner =>
      let (base, depth) := stripOptions inner
      (base, depth + 1)
termination_by sizeOf type
decreasing_by exact sizeOf_lt_of_optionInner? _h

def hostType? (type : TypeExpr) : Option HostType :=
  let (base, depth) := type.stripOptions
  base.columnType?.map fun column => ⟨column, depth⟩

def resultType? (type : TypeExpr) : Option ResultType :=
  let (base, depth) := type.stripOptions
  base.resultBase?.map fun result => ⟨result, depth⟩

end TypeExpr

end QueryMethods
