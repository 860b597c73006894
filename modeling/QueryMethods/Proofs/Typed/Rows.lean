import Mathlib.Data.List.Pairwise
import QueryMethods.Proofs.Checked
import QueryMethods.Typed.Fields

/-!
# Rows read as entities

Every field is read from the first column of its name, whatever the order and the case of the
columns, and the first field of the declaration that cannot be read is the one complained of. So a
row that holds what the fields are written as gives the entity back.
-/

namespace QueryMethods

namespace Row

variable {row : Row} {name : String} {type : FieldType}

/-- The first column of this name, up to ASCII case, holds this value. -/
def FirstColumn (row : Row) (name : String) (value : Value) : Prop :=
  ∃ before found after, row.columns = before ++ (found, value) :: after ∧
    sameName found name = true ∧ ∀ other ∈ before, sameName other.1 name = false

def Lacks (row : Row) (name : String) : Prop :=
  ∀ column ∈ row.columns, sameName column.1 name = false

/-- The first column of this name holds what is read as this value. -/
def Reads (row : Row) (name : String) (type : FieldType) (value : type.Carrier) : Prop :=
  ∃ stored, row.FirstColumn name stored ∧ type.decode stored = .ok value

/-- There is no column of this name, or the first one holds what cannot be read. -/
inductive Fails (row : Row) (name : String) (type : FieldType) : DecodeError → Prop
  | missing (hlacks : row.Lacks name) : Fails row name type ⟨name, .columnMissing⟩
  | unfit {stored : Value} {fault : DecodeFault} (hfirst : row.FirstColumn name stored)
      (hdecode : type.decode stored = .error fault) : Fails row name type ⟨name, fault⟩

theorem value?_eq_some_iff {value : Value} :
    row.value? name = some value ↔ row.FirstColumn name value := by
  rw [value?, Option.map_eq_some_iff]
  constructor
  · rintro ⟨⟨found, stored⟩, hfind, rfl⟩
    rw [List.find?_eq_some_iff_append] at hfind
    obtain ⟨hname, before, after, hcolumns, hbefore⟩ := hfind
    refine ⟨before, found, after, hcolumns, hname, ?_⟩
    intro other hmem
    simpa using hbefore other hmem
  · rintro ⟨before, found, after, hcolumns, hname, hbefore⟩
    refine ⟨(found, value), List.find?_eq_some_iff_append.mpr ?_, rfl⟩
    refine ⟨hname, before, after, hcolumns, ?_⟩
    intro other hmem
    simpa using hbefore other hmem

theorem value?_eq_none_iff : row.value? name = none ↔ row.Lacks name := by
  rw [value?, Option.map_eq_none_iff, List.find?_eq_none]
  simp only [Bool.not_eq_true, Lacks]

theorem get_eq_ok_iff {value : type.Carrier} :
    row.get type.decode name = .ok value ↔ row.Reads name type value := by
  rw [get]
  cases hvalue : row.value? name with
  | none =>
      constructor
      · intro h
        cases h
      · rintro ⟨stored, hfirst, -⟩
        rw [value?_eq_some_iff.mpr hfirst] at hvalue
        cases hvalue
  | some stored =>
      show (type.decode stored).mapError _ = _ ↔ _
      rw [mapError_eq_ok_iff]
      constructor
      · intro h
        exact ⟨stored, value?_eq_some_iff.mp hvalue, h⟩
      · rintro ⟨other, hfirst, hdecode⟩
        rw [value?_eq_some_iff.mpr hfirst] at hvalue
        exact Option.some.inj hvalue ▸ hdecode

theorem get_eq_error_iff {error : DecodeError} :
    row.get type.decode name = .error error ↔ row.Fails name type error := by
  rw [get]
  cases hvalue : row.value? name with
  | none =>
      constructor
      · intro h
        cases h
        exact .missing (value?_eq_none_iff.mp hvalue)
      · rintro (_ | ⟨hfirst, -⟩)
        · rfl
        · rw [value?_eq_some_iff.mpr hfirst] at hvalue
          cases hvalue
  | some stored =>
      constructor
      · intro h
        obtain ⟨fault, hfault, rfl⟩ := exists_eq_error_of_mapError h
        exact .unfit (value?_eq_some_iff.mp hvalue) hfault
      · rintro (hlacks | ⟨hfirst, hdecode⟩)
        · rw [value?_eq_none_iff.mpr hlacks] at hvalue
          cases hvalue
        · rw [value?_eq_some_iff.mpr hfirst] at hvalue
          obtain rfl := Option.some.inj hvalue
          simp only [hdecode, Except.mapError]

end Row

variable {row : Row}

/-- Every value is the one that its column is read as. -/
def AreRead (row : Row) : (columns : List (String × FieldType)) → FieldValues columns → Prop
  | [], _ => True
  | (name, type) :: rest, (value, values) => row.Reads name type value ∧ AreRead row rest values

theorem readFields_eq_ok_iff {columns : List (String × FieldType)} {values : FieldValues columns} :
    readFields row columns = .ok values ↔ AreRead row columns values := by
  induction columns with
  | nil => exact iff_of_true rfl trivial
  | cons column rest ih =>
      obtain ⟨name, type⟩ := column
      obtain ⟨value, values⟩ := values
      rw [AreRead, ← ih, ← Row.get_eq_ok_iff]
      cases hget : row.get type.decode name with
      | error error =>
          rw [readFields_cons_of_error hget]
          simp
      | ok found =>
          rw [readFields_cons_of_ok hget]
          cases readFields row rest <;> simp [Except.map]

theorem exists_readFields_iff {columns : List (String × FieldType)} :
    (∃ values, readFields row columns = .ok values) ↔
      ∀ column ∈ columns, ∃ value, row.Reads column.1 column.2 value := by
  induction columns with
  | nil => exact iff_of_true ⟨(), rfl⟩ fun _ h => nomatch h
  | cons column rest ih =>
      obtain ⟨name, type⟩ := column
      rw [List.forall_mem_cons, ← ih]
      constructor
      · rintro ⟨⟨value, values⟩, hread⟩
        obtain ⟨hvalue, hvalues⟩ := readFields_eq_ok_iff.mp hread
        exact ⟨⟨value, hvalue⟩, values, readFields_eq_ok_iff.mpr hvalues⟩
      · rintro ⟨⟨value, hvalue⟩, values, hvalues⟩
        exact ⟨(value, values), readFields_eq_ok_iff.mpr ⟨hvalue, readFields_eq_ok_iff.mp hvalues⟩⟩

theorem readFields_eq_error_iff {columns : List (String × FieldType)} {error : DecodeError} :
    readFields row columns = .error error ↔ ∃ before name type after,
      columns = before ++ (name, type) :: after ∧
        (∀ earlier ∈ before, ∃ value, row.Reads earlier.1 earlier.2 value) ∧
        row.Fails name type error := by
  induction columns with
  | nil =>
      constructor
      · intro h
        cases h
      · rintro ⟨before, name, type, after, hcolumns, -⟩
        simp at hcolumns
  | cons column rest ih =>
      obtain ⟨name, type⟩ := column
      cases hget : row.get type.decode name with
      | error found =>
          have hfails := Row.get_eq_error_iff.mp hget
          rw [readFields_cons_of_error hget]
          constructor
          · rintro h
            obtain rfl := Except.error.inj h
            exact ⟨[], name, type, rest, rfl, List.forall_mem_nil _, hfails⟩
          · rintro ⟨before, other, otherType, after, hcolumns, hbefore, herror⟩
            obtain ⟨rfl, hcons⟩ | ⟨before, rfl, -⟩ := List.cons_eq_append_iff.mp hcolumns
            · obtain ⟨heq, -⟩ := List.cons.inj hcons
              cases heq
              have hsame := hget.symm.trans (Row.get_eq_error_iff.mpr herror)
              rw [Except.error.inj hsame]
            · obtain ⟨value, hvalue⟩ := (List.forall_mem_cons.mp hbefore).1
              rw [Row.get_eq_ok_iff.mpr hvalue] at hget
              cases hget
      | ok value =>
          have hreads := Row.get_eq_ok_iff.mp hget
          rw [readFields_cons_of_ok hget, map_eq_error_iff, ih]
          constructor
          · rintro ⟨before, other, otherType, after, rfl, hbefore, herror⟩
            exact ⟨(name, type) :: before, other, otherType, after, rfl,
              List.forall_mem_cons.mpr ⟨⟨value, hreads⟩, hbefore⟩, herror⟩
          · rintro ⟨before, other, otherType, after, hcolumns, hbefore, herror⟩
            obtain ⟨rfl, hcons⟩ | ⟨before, rfl, hrest⟩ := List.cons_eq_append_iff.mp hcolumns
            · obtain ⟨heq, -⟩ := List.cons.inj hcons
              cases heq
              rw [Row.get_eq_error_iff.mpr herror] at hget
              cases hget
            · exact ⟨before, other, otherType, after, hrest, (List.forall_mem_cons.mp hbefore).2,
                herror⟩

/-- What the values of fields are written as, under the names of their columns. -/
def cellsOf : (columns : List (String × FieldType)) → FieldValues columns → List (String × Value)
  | [], _ => []
  | (name, type) :: rest, (value, values) => (name, type.encode value) :: cellsOf rest values

/-- Every value is read back from what it is written as. -/
def RoundTrips : (columns : List (String × FieldType)) → FieldValues columns → Prop
  | [], _ => True
  | (_, type) :: rest, (value, values) =>
      type.decode (type.encode value) = .ok value ∧ RoundTrips rest values

/-- The row holds what the values are written as, in any order and under the names of their columns
in any ASCII case, among columns of other names. Any columns may follow. -/
def Row.Holds (row : Row) (columns : List (String × FieldType)) (values : FieldValues columns) :
    Prop :=
  ∃ front behind cells others, row.columns = front ++ behind ∧ front.Perm (cells ++ others) ∧
    List.Forall₂ (fun cell own => sameName cell.1 own.1 = true ∧ cell.2 = own.2) cells
      (cellsOf columns values) ∧
    ∀ other ∈ others, ∀ column ∈ columns, sameName other.1 column.1 = false

theorem map_fst_cellsOf (columns : List (String × FieldType)) (values : FieldValues columns) :
    (cellsOf columns values).map (·.1) = columns.map (·.1) := by
  induction columns with
  | nil => rfl
  | cons column rest ih =>
      obtain ⟨name, type⟩ := column
      obtain ⟨value, values⟩ := values
      rw [cellsOf, List.map_cons, List.map_cons, ih]

/-- Of columns whose names differ, only one has the name that another one has. -/
theorem eq_of_sameName {cells : List (String × Value)}
    (hdistinct : cells.Pairwise fun left right => sameName left.1 right.1 = false)
    {left right : String × Value} (hleft : left ∈ cells) (hright : right ∈ cells)
    (hsame : sameName left.1 right.1 = true) : left = right := by
  by_contra hne
  have hsymm : Std.Symm fun left right : String × Value => sameName left.1 right.1 = false :=
    ⟨fun first second h => by rw [sameName_comm, h]⟩
  have hother := hdistinct.forall hleft hright hne
  rw [hsame] at hother
  cases hother

theorem Row.Holds.firstColumn {columns : List (String × FieldType)} {values : FieldValues columns}
    (hdistinct : (columns.map (·.1)).Pairwise fun left right => sameName left right = false)
    (h : row.Holds columns values) {own : String × Value} (hown : own ∈ cellsOf columns values) :
    row.FirstColumn own.1 own.2 := by
  obtain ⟨front, behind, cells, others, hcolumns, hperm, hcells, hothers⟩ := h
  have hnames := map_fst_cellsOf columns values
  have hapart : (cellsOf columns values).Pairwise fun left right =>
      sameName left.1 right.1 = false := by
    rw [← hnames] at hdistinct
    exact List.pairwise_map.mp hdistinct
  obtain ⟨cell, hcell, hsame, -⟩ := exists_of_mem_forall₂ hcells hown
  have hfront : cell ∈ front := hperm.mem_iff.mpr (List.mem_append_left _ hcell)
  have hfound : (front.find? fun entry => sameName entry.1 own.1).isSome :=
    List.find?_isSome.mpr ⟨cell, hfront, hsame⟩
  obtain ⟨⟨found, stored⟩, hfind⟩ := Option.isSome_iff_exists.mp hfound
  rw [List.find?_eq_some_iff_append] at hfind
  obtain ⟨hname, before, after, hsplit, hbefore⟩ := hfind
  have hstored : stored = own.2 := by
    have hmem : (found, stored) ∈ cells ++ others := by
      rw [← hperm.mem_iff, hsplit]
      exact List.mem_append_right _ (List.mem_cons_self ..)
    rcases List.mem_append.mp hmem with hmem | hmem
    · obtain ⟨other, hother, hfirst, rfl⟩ := exists_of_mem_forall₂ hcells.flip hmem
      rw [eq_of_sameName hapart hown hother (sameName_trans (by rwa [sameName_comm]) hfirst)]
    · have hcolumn : own.1 ∈ columns.map (·.1) := hnames ▸ List.mem_map_of_mem hown
      obtain ⟨column, hcolumn, heq⟩ := List.mem_map.mp hcolumn
      have hne := hothers _ hmem column hcolumn
      rw [heq, hname] at hne
      cases hne
  refine ⟨before, found, after ++ behind, ?_, hname, ?_⟩
  · rw [hcolumns, hsplit, hstored, List.append_assoc, List.cons_append]
  · intro other hmem
    simpa using hbefore other hmem

theorem AreRead.of_firstColumn {columns : List (String × FieldType)} {values : FieldValues columns}
    (hcells : ∀ own ∈ cellsOf columns values, row.FirstColumn own.1 own.2)
    (htrips : RoundTrips columns values) : AreRead row columns values := by
  induction columns with
  | nil => trivial
  | cons column rest ih =>
      obtain ⟨name, type⟩ := column
      obtain ⟨value, values⟩ := values
      obtain ⟨hcell, hcells⟩ := List.forall_mem_cons.mp hcells
      obtain ⟨htrip, htrips⟩ := htrips
      exact ⟨⟨type.encode value, hcell, htrip⟩, ih hcells htrips⟩

/-! ### Declared entities -/

namespace TypeExpr

variable {source inner : TypeExpr}

theorem hostType?_of_columnType? {type : ColumnType} (hinner : source.optionInner? = none)
    (htype : source.columnType? = some type) : source.hostType? = some ⟨type, 0⟩ := by
  have hstrip : source.stripOptions = (source, 0) := by
    rw [stripOptions]
    split
    · rfl
    · rename_i h
      rw [hinner] at h
      cases h
  rw [hostType?, hstrip]
  exact congrArg (Option.map fun column => HostType.mk column 0) htype

theorem hostType?_of_optionInner? (hinner : source.optionInner? = some inner) :
    source.hostType? = inner.hostType?.map fun host => ⟨host.base, host.depth + 1⟩ := by
  have hstrip : source.stripOptions = (inner.stripOptions.1, inner.stripOptions.2 + 1) := by
    rw [stripOptions]
    split
    · rename_i h
      rw [hinner] at h
      cases h
    · rename_i found h
      rw [hinner] at h
      rw [Option.some.inj h]
  rw [hostType?, hstrip, hostType?, Option.map_map]
  rfl

end TypeExpr

theorem DataDecl.columnsAs_of_accept {decl : DataDecl} {declared : EntityDef}
    (h : decl.accept = .ok declared) (meaning : TypeExpr → FieldType) :
    declared.columnsAs meaning =
      decl.fields.map fun field => (plainName field.name, meaning field.type) := by
  rw [accept] at h
  split at h
  · split at h
    · cases h
    split at h
    · cases h
    obtain rfl := Except.ok.inj h
    rw [EntityDef.columnsAs, List.map_map]
    rfl
  · cases h

theorem EntityDef.columnsAs_of_type? {declared : EntityDef} {type : EntityType}
    (h : declared.type? = some type) {meaning : TypeExpr → FieldType}
    (hmeaning : ∀ source host, source.hostType? = some host → meaning source = host.fieldType) :
    declared.columnsAs meaning = EntityType.fieldsOf type.columns ∧
      type.entity.fields.map (·.name) = declared.columns.map ColumnDef.name := by
  obtain ⟨columns, hcolumns, rfl⟩ := Option.map_eq_some_iff.mp h
  rw [mapM_eq_some_iff] at hcolumns
  clear h
  rw [columnsAs]
  generalize declared.columns = sources at hcolumns ⊢
  show _ ∧ (columns.map _).map _ = _
  induction hcolumns with
  | nil => exact ⟨rfl, rfl⟩
  | cons hcolumn _ ih =>
      obtain ⟨host, hhost, rfl⟩ := Option.map_eq_some_iff.mp hcolumn
      refine ⟨?_, ?_⟩
      · rw [List.map_cons, ih.1, hmeaning _ _ hhost]
        rfl
      · rw [List.map_cons, List.map_cons, ih.2, List.map_cons]

/-- A row is read as a declared entity exactly where every field can be read, and then each field is
what the first column of its name is read as. Otherwise the error is that of the first field in the
declaration that cannot be read. A row that holds what the fields of an entity are written as gives
the entity back if each field does. Types that are known are read as the entity type says. -/
theorem DataDecl.rows_read_back {decl : DataDecl} {declared : EntityDef}
    (haccept : decl.accept = .ok declared)
    (hdistinct : (decl.fields.map fun field => plainName field.name).Pairwise
      fun left right => sameName left right = false)
    (meaning : TypeExpr → FieldType) (row : Row) :
    declared.columnsAs meaning =
        (decl.fields.map fun field => (plainName field.name, meaning field.type)) ∧
      ((∃ values, readFields row (declared.columnsAs meaning) = .ok values) ↔
        ∀ field ∈ decl.fields, ∃ value,
          row.Reads (plainName field.name) (meaning field.type) value) ∧
      (∀ values, readFields row (declared.columnsAs meaning) = .ok values ↔
        AreRead row (declared.columnsAs meaning) values) ∧
      (∀ error, readFields row (declared.columnsAs meaning) = .error error ↔
        ∃ before field after, decl.fields = before ++ field :: after ∧
          (∀ earlier ∈ before, ∃ value,
            row.Reads (plainName earlier.name) (meaning earlier.type) value) ∧
          row.Fails (plainName field.name) (meaning field.type) error) ∧
      (∀ values, row.Holds (declared.columnsAs meaning) values →
        RoundTrips (declared.columnsAs meaning) values →
        readFields row (declared.columnsAs meaning) = .ok values) ∧
      ∀ type, declared.type? = some type →
        (∀ source host, source.hostType? = some host → meaning source = host.fieldType) →
        declared.columnsAs meaning = EntityType.fieldsOf type.columns ∧
          readFields row (EntityType.fieldsOf type.columns) =
            (type.ofRow row).map (EntityType.fieldValues type.columns) ∧
          type.entity.fields.map (·.name) = decl.fields.map fun field => plainName field.name := by
  have hcolumns := columnsAs_of_accept haccept meaning
  have hnames : (declared.columnsAs meaning).map (·.1) =
      decl.fields.map fun field => plainName field.name := by
    rw [hcolumns, List.map_map]
    rfl
  refine ⟨hcolumns, ?_, fun values => readFields_eq_ok_iff, fun error => ?_, ?_, ?_⟩
  · rw [exists_readFields_iff, hcolumns, List.forall_mem_map]
  · rw [readFields_eq_error_iff, hcolumns]
    constructor
    · rintro ⟨before, name, type, after, hsplit, hbefore, herror⟩
      obtain ⟨earlier, rest, hfields, rfl, hrest⟩ := List.map_eq_append_iff.mp hsplit
      obtain ⟨field, later, rfl, hfield, -⟩ := List.map_eq_cons_iff.mp hrest
      obtain ⟨rfl, rfl⟩ := Prod.mk.inj hfield
      exact ⟨earlier, field, later, hfields, List.forall_mem_map.mp hbefore, herror⟩
    · rintro ⟨before, field, after, hfields, hbefore, herror⟩
      refine ⟨before.map fun field => (plainName field.name, meaning field.type), _, _,
        after.map fun field => (plainName field.name, meaning field.type), ?_,
        List.forall_mem_map.mpr hbefore, herror⟩
      rw [hfields, List.map_append, List.map_cons]
  · intro values hholds htrips
    rw [← hnames] at hdistinct
    exact readFields_eq_ok_iff.mpr
      (.of_firstColumn (fun _ hown => hholds.firstColumn hdistinct hown) htrips)
  · intro type htype hmeaning
    obtain ⟨hknown, hfields⟩ := EntityDef.columnsAs_of_type? htype hmeaning
    refine ⟨hknown, EntityType.readFields_fieldsOf row type.columns, ?_⟩
    rw [hfields, ← hnames, EntityDef.columnsAs, List.map_map]
    rfl

namespace Contacts

def entityDecl : DataDecl :=
  { kind := .named
    name := "Contact"
    fields := [⟨"name", .named "String"⟩,
      ⟨"r#type", .path none (.ofNames false ["Option"]) (some [.named "String"])⟩] }

def declared : EntityDef :=
  { identifier := "Contact"
    table := "contacts"
    schema := none
    columns := [⟨"name", .named "String"⟩,
      ⟨"r#type", .path none (.ofNames false ["Option"]) (some [.named "String"])⟩] }

def entityType : EntityType :=
  { name := "Contact"
    table := "contacts"
    schema := none
    columns := [("name", ⟨.text, 0⟩), ("type", ⟨.text, 1⟩)] }

/-- The columns in another order and case, with one of another name before them and a second name
behind them. -/
def contact : Row :=
  ⟨[("extra", .null), ("TYPE", .text "work"), ("Name", .text "Ann"), ("name", .int 3)]⟩

/-- Source types that are known stand for what they are known as. -/
def meaning (source : TypeExpr) : FieldType :=
  match source.hostType? with
  | some host => host.fieldType
  | none => ⟨Unit, fun _ => .null, fun _ => .ok ()⟩

end Contacts

open Contacts in
theorem DataDecl.rows_read_back_contact :
    entityDecl.accept = .ok declared ∧
      ((entityDecl.fields.map fun field => plainName field.name).Pairwise
        fun left right => sameName left right = false) ∧
      declared.type? = some entityType ∧
      (entityType.ofRow contact).map (EntityType.fieldValues entityType.columns) =
        .ok ("Ann", some "work", ()) := by
  have htable : defaultTable "Contact" = "contacts" := by decide +kernel
  have haccept : entityDecl.accept = .ok declared := by
    rw [declared, ← htable]
    rfl
  have hdistinct : (entityDecl.fields.map fun field => plainName field.name).Pairwise
      fun left right => sameName left right = false := by decide +kernel
  have hname : (TypeExpr.named "String").hostType? = some ⟨.text, 0⟩ :=
    TypeExpr.hostType?_of_columnType? rfl rfl
  have hkind : (TypeExpr.path none (.ofNames false ["Option"]) (some [.named "String"])).hostType? =
      some ⟨.text, 1⟩ := by
    rw [TypeExpr.hostType?_of_optionInner? rfl, hname]
    rfl
  have htype : declared.type? = some entityType := by
    rw [EntityDef.type?, declared, List.mapM_cons, List.mapM_cons, List.mapM_nil, hname, hkind]
    rfl
  have hmeaning : ∀ source host, source.hostType? = some host →
      meaning source = host.fieldType := by
    intro source host hhost
    rw [meaning, hhost]
  obtain ⟨-, -, -, -, hreads, hknown⟩ := rows_read_back haccept hdistinct meaning contact
  obtain ⟨hcolumns, hread, -⟩ := hknown entityType htype hmeaning
  rw [hcolumns] at hreads
  refine ⟨haccept, hdistinct, htype, ?_⟩
  rw [← hread]
  refine hreads ("Ann", some "work", ()) ?_ ⟨rfl, rfl, trivial⟩
  refine ⟨[("extra", .null), ("TYPE", .text "work"), ("Name", .text "Ann")], [("name", .int 3)],
    [("Name", .text "Ann"), ("TYPE", .text "work")], [("extra", .null)], rfl, ?_, ?_, ?_⟩
  · decide
  · exact .cons ⟨by decide, rfl⟩ (.cons ⟨by decide, rfl⟩ .nil)
  · decide

end QueryMethods
