import QueryMethods.Typed.Call
import QueryMethods.Proofs.Checked

/-!
# Values on both sides of a typed call

An argument is written as a value that its own parameter takes as it is: the type is the one that
was registered, and a `NULL` comes of an option alone. What a result is read from may be unfit in
many ways, but a reader that was given an output of its own shape never complains of the shape.
-/

namespace QueryMethods

theorem ColumnType.type?_encode (type : ColumnType) (value : type.Carrier) :
    (type.encode value).type? = some type.valueType := by
  cases type <;> rfl

theorem Value.coerce?_eq_self {value : Value} {type : ValueType} (h : value.type? = some type) :
    value.coerce? type = some value := by
  unfold coerce?
  simp [h]

/-- A value under options is `NULL`, if there are any, or what stands inside them. -/
theorem Layered.encode_cases {α : Type} (encodeBase : α → Value) :
    ∀ (depth : Nat) (value : Layered α depth),
      (0 < depth ∧ encode encodeBase depth value = .null) ∨
        ∃ base, encode encodeBase depth value = encodeBase base
  | 0, value => .inr ⟨value, rfl⟩
  | depth + 1, none => .inl ⟨Nat.succ_pos depth, rfl⟩
  | depth + 1, some value => by
      rcases encode_cases encodeBase depth value with ⟨-, hnull⟩ | hbase
      · exact .inl ⟨Nat.succ_pos depth, hnull⟩
      · exact .inr hbase

theorem Param.accept?_encode {param : Param} {type : HostType}
    (htype : param.type = type.valueType) (hnullable : param.nullable = type.nullable)
    (value : type.Carrier) : param.accept? (type.encode value) = some (type.encode value) := by
  unfold accept?
  rcases Layered.encode_cases type.base.encode type.depth value with ⟨hdepth, hnull⟩ | ⟨base, hbase⟩
  · have hsome : type.nullable = true := by
      rw [HostType.nullable, bne_iff_ne]
      omega
    simp [HostType.encode, hnull, Value.coerce?, Value.type?, hnullable, hsome]
  · have hcoerce := Value.coerce?_eq_self (type.base.type?_encode base)
    have hfull : (type.base.encode base).isNull = false := by
      rw [Value.isNull, type.base.type?_encode base]
      rfl
    rw [HostType.encode, hbase, htype, HostType.valueType, hcoerce]
    simp [hfull]

/-- The registered parameters stand for the given types, one by one. -/
def StandFor (params : List Param) (types : List HostType) : Prop :=
  List.Forall₂ (fun param type => param.type = type.valueType ∧ param.nullable = type.nullable)
    params types

theorem Method.checkEach_encode {params : List Param} {types : List HostType}
    (h : StandFor params types) (args : HostValues types) :
    checkEach params (HostValues.encode types args) = .ok (HostValues.encode types args) := by
  induction h with
  | nil => rfl
  | @cons param type params types hparam _ ih =>
      obtain ⟨value, values⟩ := args
      simp only [HostValues.encode, checkEach, Param.accept?_encode hparam.1 hparam.2 value, ih]
      rfl

theorem HostValues.length_encode (types : List HostType) (args : HostValues types) :
    (encode types args).length = types.length := by
  induction types with
  | nil => rfl
  | cons type types ih => rw [encode, List.length_cons, ih, List.length_cons]

/-- Arguments of the declared types always pass, and are sent as they are. -/
theorem Method.checkArguments_encode {method : Method} {types : List HostType}
    (h : StandFor method.params types) (args : HostValues types) :
    method.checkArguments (HostValues.encode types args) = .ok (HostValues.encode types args) := by
  have hlength : (HostValues.encode types args).length = method.params.length := by
    rw [HostValues.length_encode, h.length_eq]
  rw [checkArguments, if_pos hlength, checkEach_encode h]

/-- The complaint that an output is of another shape than expected. -/
def DecodeFault.isShape : DecodeFault → Bool
  | .outputShape _ _ => true
  | _ => false

/-- Whatever the reader complains of, it is never a shape. -/
def ReadsValues {ι α : Type} (read : ι → Except DecodeFault α) : Prop :=
  ∀ input fault, read input = .error fault → fault.isShape = false

namespace ReadsValues

theorem toInt : ReadsValues Value.toInt := by
  intro value fault h
  cases value <;> simp only [Value.toInt, reduceCtorEq, Except.error.injEq] at h <;> exact h ▸ rfl

theorem toFloat : ReadsValues Value.toFloat := by
  intro value fault h
  cases value <;> simp only [Value.toFloat, reduceCtorEq, Except.error.injEq] at h <;>
    exact h ▸ rfl

theorem toUuid : ReadsValues Value.toUuid := by
  intro value fault h
  cases value with
  | text spelling =>
      simp only [Value.toUuid] at h
      split at h
      · cases h
      · exact Except.error.inj h ▸ rfl
  | _ => simp only [Value.toUuid, reduceCtorEq, Except.error.injEq] at h <;> exact h ▸ rfl

/-- An integer that is held to a range is read as a value. -/
theorem bounded {α : Type} {next : Int64 → Except DecodeFault α} (h : ReadsValues next) :
    ReadsValues fun value : Value => value.toInt.bind next := by
  intro value fault hread
  rcases eq_error_of_bind hread with hint | ⟨n, -, hnext⟩
  · exact toInt value fault hint
  · exact h n fault hnext

theorem column (type : ColumnType) : ReadsValues type.decode := by
  cases type with
  | int16 =>
      refine bounded fun n fault h => ?_
      split at h
      · cases h
      · exact Except.error.inj h ▸ rfl
  | int32 =>
      refine bounded fun n fault h => ?_
      split at h
      · cases h
      · exact Except.error.inj h ▸ rfl
  | int64 => exact toInt
  | float32 => exact fun value fault h => toFloat value fault (eq_error_of_map h)
  | float64 => exact toFloat
  | uuid => exact toUuid
  | _ =>
      intro value fault h
      cases value <;> simp only [ColumnType.decode, reduceCtorEq, Except.error.injEq] at h <;>
        exact h ▸ rfl

theorem layered {α : Type} {decodeBase : Value → Except DecodeFault α}
    (h : ReadsValues decodeBase) (depth : Nat) : ReadsValues (Layered.decode decodeBase depth) := by
  induction depth with
  | zero => exact h
  | succ depth ih =>
      intro value fault hread
      rw [Layered.decode] at hread
      split at hread
      · cases hread
      · exact ih value fault (eq_error_of_map hread)

theorem host (type : HostType) : ReadsValues type.decode :=
  layered (column type.base) type.depth

theorem resultBase (base : ResultBase) : ReadsValues base.decode := by
  cases base with
  | column type => exact column type
  | count =>
      refine bounded fun n fault h => ?_
      split at h
      · cases h
      · exact Except.error.inj h ▸ rfl
  | unit => exact fun value fault h => nomatch h

theorem result (type : ResultType) : ReadsValues type.decode :=
  layered (resultBase type.base) type.depth

end ReadsValues

/-- A reader of rows or outputs never complains of a shape. -/
def ReadsRows {ι α : Type} (read : ι → Except DecodeError α) : Prop :=
  ∀ input error, read input = .error error → error.fault.isShape = false

namespace ReadsRows

theorem get {α : Type} {decode : Value → Except DecodeFault α} (h : ReadsValues decode)
    (column : String) : ReadsRows fun row : Row => row.get decode column := by
  intro row error hread
  simp only [Row.get] at hread
  split at hread
  case h_1 value _ =>
    obtain ⟨fault, hfault, rfl⟩ := exists_eq_error_of_mapError hread
    exact h value fault hfault
  case h_2 => exact Except.error.inj hread ▸ rfl

theorem first {α : Type} {decode : Value → Except DecodeFault α} (h : ReadsValues decode) :
    ReadsRows fun row : Row => row.first decode := by
  intro row error hread
  simp only [Row.first] at hread
  split at hread
  case h_1 column value _ _ =>
    obtain ⟨fault, hfault, rfl⟩ := exists_eq_error_of_mapError hread
    exact h value fault hfault
  case h_2 => exact Except.error.inj hread ▸ rfl

theorem columns (columns : List (String × HostType)) :
    ReadsRows fun row => EntityType.readColumns row columns := by
  induction columns with
  | nil => exact fun row error h => nomatch h
  | cons column columns ih =>
      intro row error hread
      simp only [EntityType.readColumns] at hread
      split at hread
      case h_1 found hfound =>
        obtain rfl : found = error := Except.error.inj hread
        exact get (.host column.2) column.1 row found hfound
      case h_2 => exact ih row error (eq_error_of_map hread)

theorem record (entity : EntityType) : ReadsRows entity.ofRow :=
  columns entity.columns

end ReadsRows

/-- The shape that a reader expects of an output. -/
def TypedReader.shape : TypedReader → Shape
  | .entity | .optionalFirst _ => .optional
  | .entities | .listFirst _ => .list
  | .scalar _ => .scalar

theorem OutputReader.shape_of_typed? {reader : OutputReader} {typed : TypedReader}
    (h : reader.typed? = some typed) : typed.shape = reader.shape := by
  cases reader with
  | entity type => exact Option.some.inj h ▸ rfl
  | entities type => exact Option.some.inj h ▸ rfl
  | optionalFirst type =>
      obtain ⟨result, -, rfl⟩ := Option.map_eq_some_iff.mp h
      rfl
  | listFirst type =>
      obtain ⟨result, -, rfl⟩ := Option.map_eq_some_iff.mp h
      rfl
  | scalar type =>
      obtain ⟨result, -, rfl⟩ := Option.map_eq_some_iff.mp h
      rfl

namespace ReadsRows

variable {α : Type} {output : Output} {error : DecodeError}

theorem toOptional {decode : Row → Except DecodeError α} (hreads : ReadsRows decode)
    (hshape : output.shape = .optional) (h : output.toOptional decode = .error error) :
    error.fault.isShape = false := by
  cases output with
  | optional row =>
      cases row with
      | none => cases h
      | some row => exact hreads row error (eq_error_of_map h)
  | list rows => cases hshape
  | scalar value => cases hshape

theorem toList {decode : Row → Except DecodeError α} (hreads : ReadsRows decode)
    (hshape : output.shape = .list) (h : output.toList decode = .error error) :
    error.fault.isShape = false := by
  cases output with
  | optional row => cases hshape
  | list rows =>
      obtain ⟨_, row, -, hrow⟩ := exists_of_mapM_eq_error h
      exact hreads row error hrow
  | scalar value => cases hshape

theorem toScalar {decode : Value → Except DecodeFault α} (hreads : ReadsValues decode)
    (hshape : output.shape = .scalar) (h : output.toScalar decode = .error error) :
    error.fault.isShape = false := by
  cases output with
  | optional row => cases hshape
  | list rows => cases hshape
  | scalar value =>
      obtain ⟨fault, hfault, rfl⟩ := exists_eq_error_of_mapError h
      exact hreads value fault hfault

end ReadsRows

/-- An output of the shape that a reader expects is read, or one of its values is unfit. -/
theorem TypedReader.isShape_of_read {reader : TypedReader} {entity : EntityType} {output : Output}
    (hshape : output.shape = reader.shape) {error : DecodeError}
    (h : reader.read entity output = .error error) : error.fault.isShape = false := by
  cases reader with
  | entity => exact (ReadsRows.record entity).toOptional hshape h
  | entities => exact (ReadsRows.record entity).toList hshape h
  | optionalFirst type => exact (ReadsRows.first (.result type)).toOptional hshape h
  | listFirst type => exact (ReadsRows.first (.result type)).toList hshape h
  | scalar type => exact ReadsRows.toScalar (.result type) hshape h

end QueryMethods
