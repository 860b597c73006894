import QueryMethods.Proofs.Float.Widening
import QueryMethods.Proofs.Typed.Rows
import QueryMethods.Proofs.Typed.Values

/-!
# Values read back

What a value is written as is read back as the value. The one exception is an absence inside
options: it is written as `NULL` whatever surrounds it, and so is read back as the outermost one.
-/

namespace QueryMethods

namespace Layered

variable {α : Type} {encodeBase : α → Value} {decodeBase : Value → Except DecodeFault α}

/-- Nothing stands inside the options. -/
def Absent : (depth : Nat) → Layered α depth → Prop
  | 0, _ => False
  | _ + 1, none => True
  | depth + 1, some value => Absent depth value

/-- Nothing stands inside the options, and at least one of them says that something does. -/
def Buried : (depth : Nat) → Layered α depth → Prop
  | 0, _ => False
  | _ + 1, none => False
  | depth + 1, some value => Absent depth value

theorem Buried.absent : ∀ {depth : Nat} {value : Layered α depth}, Buried depth value →
    Absent depth value
  | _ + 1, some _, h => h

theorem encode_eq_null_iff (hbase : ∀ base, encodeBase base ≠ .null) :
    ∀ (depth : Nat) (value : Layered α depth),
      encode encodeBase depth value = .null ↔ Absent depth value
  | 0, value => iff_of_false (hbase value) id
  | _ + 1, none => iff_of_true rfl trivial
  | depth + 1, some value => encode_eq_null_iff hbase depth value

theorem decode_null (depth : Nat) :
    decode decodeBase (depth + 1) .null = .ok (none : Layered α (depth + 1)) := rfl

theorem decode_of_ne_null {value : Value} (h : value ≠ .null) (depth : Nat) :
    decode decodeBase (depth + 1) value = (decode decodeBase depth value).map some := by
  have hnull : ¬ value.isNull = true := fun hnull => h (Value.isNull_eq_true_iff.mp hnull)
  rw [decode, if_neg hnull]

variable (hbase : ∀ base, encodeBase base ≠ .null)

include hbase in
/-- Reading follows the options down to what stands inside them, which is no `NULL`. -/
theorem decode_encode_of_not_buried
    (htrip : ∀ base, decodeBase (encodeBase base) = .ok base) :
    ∀ (depth : Nat) (value : Layered α depth), ¬ Buried depth value →
      decode decodeBase depth (encode encodeBase depth value) = .ok value
  | 0, value, _ => htrip value
  | _ + 1, none, _ => rfl
  | depth + 1, some value, hburied => by
      have habsent : ¬ Absent depth value := hburied
      have hnull : encode encodeBase depth value ≠ .null := by
        intro hnull
        exact habsent ((encode_eq_null_iff hbase depth value).mp hnull)
      have hinner := decode_encode_of_not_buried htrip depth value fun h => habsent h.absent
      rw [encode, decode_of_ne_null hnull, hinner]
      rfl

include hbase in
theorem decode_encode_of_buried {depth : Nat} {value : Layered α (depth + 1)}
    (h : Buried (depth + 1) value) :
    decode decodeBase (depth + 1) (encode encodeBase (depth + 1) value) = .ok none := by
  rw [(encode_eq_null_iff hbase (depth + 1) value).mpr h.absent, decode_null]

end Layered

theorem widens_single_double : Format.single.Widens .double where
  source_exponent := by decide
  target_exponent := by decide
  target_fraction := by decide
  fraction := by decide
  bias := by decide

namespace ColumnType

theorem encode_ne_null (type : ColumnType) (value : type.Carrier) : type.encode value ≠ .null := by
  intro hnull
  have htype := type.type?_encode value
  rw [hnull] at htype
  cases htype

/-- A short integer stays in range when it is lengthened, and a short float loses nothing. -/
theorem decode_encode (type : ColumnType) (value : type.Carrier) :
    type.decode (type.encode value) = .ok value := by
  cases type with
  | int16 =>
      have hrange : Int16.minValue.toInt ≤ value.toInt64.toInt ∧
          value.toInt64.toInt ≤ Int16.maxValue.toInt := by
        rw [Int16.toInt_toInt64]
        exact ⟨value.minValue_le_toInt, value.toInt_le⟩
      show (if Int16.minValue.toInt ≤ value.toInt64.toInt ∧
          value.toInt64.toInt ≤ Int16.maxValue.toInt then
        Except.ok value.toInt64.toInt16 else _) = _
      rw [if_pos hrange, Int16.toInt16_toInt64]
  | int32 =>
      have hrange : Int32.minValue.toInt ≤ value.toInt64.toInt ∧
          value.toInt64.toInt ≤ Int32.maxValue.toInt := by
        rw [Int32.toInt_toInt64]
        exact ⟨value.minValue_le_toInt, value.toInt_le⟩
      show (if Int32.minValue.toInt ≤ value.toInt64.toInt ∧
          value.toInt64.toInt ≤ Int32.maxValue.toInt then
        Except.ok value.toInt64.toInt32 else _) = _
      rw [if_pos hrange, Int32.toInt32_toInt64]
  | float32 => exact congrArg Except.ok (Binary.convert_convert widens_single_double value)
  | bool | int64 | float64 | text | uuid | timestamp => rfl

end ColumnType

/-- Whatever a value is written as, reading it succeeds: it gives the value, or the outermost
absence if the value buries an absence in options. Only a type of options writes `NULL`, and all
else that is written is of the type that the declaration registers. -/
theorem HostType.reads_back (base : ColumnType) (column : String) :
    (∀ depth (value : Layered base.Carrier depth), ¬ Layered.Buried depth value →
        ((HostType.mk base depth).decode ((HostType.mk base depth).encode value)).mapError
          (DecodeError.mk column) = .ok value) ∧
      (∀ depth (value : Layered base.Carrier (depth + 1)), Layered.Buried (depth + 1) value →
        ((HostType.mk base (depth + 1)).decode
          ((HostType.mk base (depth + 1)).encode value)).mapError (DecodeError.mk column) =
            .ok none) ∧
      ∀ depth (value : Layered base.Carrier depth),
        ((HostType.mk base depth).encode value = .null →
          (HostType.mk base depth).nullable = true) ∧
        ((HostType.mk base depth).encode value ≠ .null →
          ((HostType.mk base depth).encode value).type? =
            some (HostType.mk base depth).valueType) := by
  refine ⟨?_, ?_, ?_⟩
  · intro depth value hburied
    rw [mapError_eq_ok_iff]
    exact Layered.decode_encode_of_not_buried base.encode_ne_null base.decode_encode depth value
      hburied
  · intro depth value hburied
    rw [mapError_eq_ok_iff]
    exact Layered.decode_encode_of_buried base.encode_ne_null hburied
  · intro depth value
    rcases Layered.encode_cases base.encode depth value with ⟨hdepth, hnull⟩ | ⟨inner, hinner⟩
    · refine ⟨fun _ => ?_, fun hne => absurd hnull hne⟩
      rw [nullable, bne_iff_ne]
      exact Nat.ne_of_gt hdepth
    · have hset := base.encode_ne_null inner
      refine ⟨fun hnull => absurd (hinner.symm.trans hnull) hset, fun _ => ?_⟩
      rw [encode, hinner]
      exact base.type?_encode inner

/-- An option of an option forgets which of the two is absent. -/
theorem HostType.reads_back_nested :
    ((HostType.mk .int16 2).decode ((HostType.mk .int16 2).encode (some none))).mapError
        (DecodeError.mk "number") = .ok none ∧
      ((HostType.mk .int16 2).decode ((HostType.mk .int16 2).encode (some (some (-7))))).mapError
        (DecodeError.mk "number") = .ok (some (some (-7))) :=
  ⟨(reads_back .int16 "number").2.1 1 (some none) trivial,
    (reads_back .int16 "number").1 2 (some (some (-7))) id⟩

theorem Layered.not_buried_of_le {α : Type} :
    ∀ {depth : Nat}, depth ≤ 1 → ∀ value : Layered α depth, ¬ Buried depth value
  | 0, _, _ => id
  | 1, _, none => id
  | 1, _, some _ => id

namespace EntityType

theorem roundTrips_fieldValues {columns : List (String × HostType)}
    (hdepth : ∀ column ∈ columns, column.2.depth ≤ 1) (values : HostValues (columns.map (·.2))) :
    RoundTrips (fieldsOf columns) (fieldValues columns values) := by
  induction columns with
  | nil => trivial
  | cons column rest ih =>
      obtain ⟨name, host⟩ := column
      obtain ⟨value, values⟩ := values
      obtain ⟨hhost, hrest⟩ := List.forall_mem_cons.mp hdepth
      exact ⟨Layered.decode_encode_of_not_buried host.base.encode_ne_null host.base.decode_encode
        host.depth value (Layered.not_buried_of_le hhost value), ih hrest values⟩

theorem fieldValues_injective (columns : List (String × HostType)) :
    ∀ left right, fieldValues columns left = fieldValues columns right → left = right := by
  induction columns with
  | nil =>
      intro left right _
      rfl
  | cons column rest ih =>
      rintro ⟨value, values⟩ ⟨other, others⟩ h
      obtain ⟨hvalue, hvalues⟩ := Prod.mk.inj h
      rw [ih values others hvalues]
      exact congrArg (·, others) hvalue

theorem map_fst_fieldsOf (columns : List (String × HostType)) :
    (fieldsOf columns).map (·.1) = columns.map (·.1) := by
  induction columns with
  | nil => rfl
  | cons column rest ih => rw [fieldsOf, List.map_cons, ih, List.map_cons]

/-- An entity without options in options is read back from every row that holds it. -/
theorem ofRow_of_holds {type : EntityType} {row : Row} {record : type.Record}
    (hdepth : ∀ column ∈ type.columns, column.2.depth ≤ 1)
    (hdistinct : (type.columns.map (·.1)).Pairwise fun left right => sameName left right = false)
    (h : row.Holds (fieldsOf type.columns) (fieldValues type.columns record)) :
    type.ofRow row = .ok record := by
  rw [← map_fst_fieldsOf] at hdistinct
  have hread : readFields row (fieldsOf type.columns) = .ok (fieldValues type.columns record) :=
    readFields_eq_ok_iff.mpr (.of_firstColumn (fun _ hown => h.firstColumn hdistinct hown)
      (roundTrips_fieldValues hdepth record))
  rw [readFields_fieldsOf] at hread
  show readColumns row type.columns = .ok record
  cases hcolumns : readColumns row type.columns with
  | error error =>
      rw [hcolumns] at hread
      cases hread
  | ok found =>
      rw [hcolumns] at hread
      rw [fieldValues_injective type.columns found record (Except.ok.inj hread)]

end EntityType

end QueryMethods
