import QueryMethods.Proofs.Registry.History
import QueryMethods.Proofs.Template.Targets

/-!
# Types that do not fit

Binding is refused for a type only if a placeholder is meant for a field that does not fit its
parameter, and it is refused where one is.
-/

namespace QueryMethods

namespace BoundTemplate

section

variable {params : List Param} {front back : List Piece} {name : String} {quote : Option Char}
  {used : List Nat} {param : Param}

/-- The check of a placeholder is that of the first parameter of its name. -/
theorem getElem?_params_iff
    (hused : (placeholders (front ++ .placeholder name quote :: back)).mapM (findParam params) =
      .ok used) :
    (used.filterMap (params[·]?))[(placeholders front).length]? = some param ↔
      ∃ index, FirstNamed params name index ∧ params[index]? = some param := by
  have hlt : ∀ place ∈ used, place < params.length := fun place hmem => by
    obtain ⟨_, -, hfirst⟩ := exists_of_mem_forall₂ (firstNamed_of_mapM hused) hmem
    exact hfirst.lt_length
  have hplace : (placeholders (front ++ .placeholder name quote :: back))[
      (placeholders front).length]? = some name := by
    rw [placeholders_append, List.getElem?_append_right (Nat.le_refl _), Nat.sub_self]
    rfl
  obtain ⟨found, hfound, hname⟩ := exists_getElem?_of_forall₂ (mapM_eq_ok_iff.mp hused) hplace
  rw [getElem?_filterMap_params hlt, hfound, Option.bind_some]
  constructor
  · exact fun h => ⟨found, findParam_eq_ok hname, h⟩
  · rintro ⟨index, hnamed, hparam⟩
    rw [findParam_of_firstNamed hnamed] at hname
    rwa [← Except.ok.inj hname]

end

section

variable {param column : String} {paramType columnType : ValueType}

theorem scan_ne_typeMismatch (region : Region) (offset : Nat) (text : List Char) :
    scan region offset text ≠ .error (.typeMismatch param column paramType columnType) := by
  fun_induction scan region offset text
  case case1 | case4 | case5 | case6 | case8 | case24 => rintro ⟨⟩
  case case7 ih | case15 ih | case21 ih | case22 ih => exact ih
  all_goals
    rename_i ih
    exact fun h => ih (eq_error_of_map h)

theorem findParam_ne_typeMismatch (params : List Param) (name : String) :
    findParam params name ≠ .error (.typeMismatch param column paramType columnType) := by
  rw [findParam]
  split <;> rintro ⟨⟩

end

section

variable {template : String} {params : List Param} {entity : Entity} {dialect : Dialect}

/-- **Refused types.** If binding is refused for a type, then a placeholder is meant for a field
that does not fit its parameter: it is inserted into that column, or stands behind a comparison
whose left side ends in a reference to it. -/
theorem exists_target_of_typeMismatch {param column : String} {paramType columnType : ValueType}
    (h : ofTemplate template params entity dialect =
      .error (.typeMismatch param column paramType columnType)) :
    ∃ front name quote back index declared field target,
      piecesOf template.toList = .ok (front ++ .placeholder name quote :: back) ∧
        FirstNamed params name index ∧ params[index]? = some declared ∧
        (IsInserted front back target ∨ IsCompared front target) ∧
        entity.field? target = some field ∧ declared.type.fits field.type = false ∧
        declared.name = param ∧ declared.type = paramType ∧
        field.name = column ∧ field.type = columnType := by
  cases hpieces : piecesOf template.toList with
  | error fault =>
      rw [ofTemplate, hpieces] at h
      obtain rfl := Except.error.inj h
      exact absurd hpieces (scan_ne_typeMismatch _ _ _)
  | ok pieces =>
      cases hused : (placeholders pieces).mapM (findParam params) with
      | error fault =>
          rw [ofTemplate, hpieces] at h
          simp only [bind, Except.bind, hused] at h
          obtain rfl := Except.error.inj h
          obtain ⟨_, name, -, hname⟩ := exists_of_mapM_eq_error hused
          exact absurd hname (findParam_ne_typeMismatch params name)
      | ok used =>
          rw [ofTemplate_eq hpieces hused] at h
          obtain ⟨number, declared, target, hparam, htarget, hcheck⟩ :=
            checkColumns_eq_error (eq_error_of_map h)
          obtain ⟨target, field, rfl, hfield, hfits, hfault⟩ := checkColumn_eq_error hcheck
          obtain ⟨name, hname⟩ : ∃ name, (placeholders pieces)[number]? = some name := by
            have hlength : (targetColumns (mask pieces)).length = (placeholders pieces).length := by
              rw [targetColumns, List.length_mapIdx]
              exact length_comparedColumns 0 [] pieces
            have hlt := (List.getElem?_eq_some_iff.mp htarget).1
            rw [hlength] at hlt
            exact ⟨_, List.getElem?_eq_getElem hlt⟩
          obtain ⟨front, quote, back, rfl, rfl⟩ := exists_of_getElem?_placeholders hname
          obtain ⟨index, hnamed, hdeclared⟩ := (getElem?_params_iff hused).mp hparam
          injection hfault with hparam hcolumn hparamType hcolumnType
          exact ⟨front, name, quote, back, index, declared, field, target, rfl, hnamed, hdeclared,
            getElem?_targetColumns_iff.mp htarget, hfield, hfits, hparam.symm, hparamType.symm,
            hcolumn.symm, hcolumnType.symm⟩

theorem exists_target_of_typeMismatch_accounts :
    let template := "SELECT * FROM accounts WHERE accounts.id <> \x7bowner\x7d"
    ofTemplate template Accounts.find.params Accounts.entity .postgres =
        .error (.typeMismatch "owner" "id" .text .int) ∧
      ∃ front name quote back index declared field target,
        piecesOf template.toList = .ok (front ++ .placeholder name quote :: back) ∧
          FirstNamed Accounts.find.params name index ∧
          Accounts.find.params[index]? = some declared ∧
          (IsInserted front back target ∨ IsCompared front target) ∧
          Accounts.entity.field? target = some field ∧ declared.type.fits field.type = false ∧
          declared.name = "owner" ∧ declared.type = .text ∧
          field.name = "id" ∧ field.type = .int := by
  intro template
  have h : ofTemplate template Accounts.find.params Accounts.entity .postgres =
      .error (.typeMismatch "owner" "id" .text .int) := by
    decide +kernel
  exact ⟨h, exists_target_of_typeMismatch h⟩

/-- The left side need not be that reference as a whole: it is a product here, and then a quoted
name of two words. -/
theorem ofTemplate_accounts_of_compound :
    let product := "SELECT * FROM accounts WHERE balance * id >= \x7bamount\x7d"
    let quoted := "SELECT * FROM accounts WHERE \"home id\" >= \x7bamount\x7d"
    (∃ front, piecesOf product.toList = .ok (front ++ [.placeholder "amount" none]) ∧
        front.flatMap Piece.source = "SELECT * FROM accounts WHERE balance * id >= ".toList) ∧
      ofTemplate product Accounts.deposit.params Accounts.entity .postgres =
        .error (.typeMismatch "amount" "id" .float .int) ∧
      (∃ front, piecesOf quoted.toList = .ok (front ++ [.placeholder "amount" none]) ∧
        front.flatMap Piece.source = "SELECT * FROM accounts WHERE \"home id\" >= ".toList) ∧
      ofTemplate quoted Accounts.deposit.params Accounts.entity .postgres =
        .error (.typeMismatch "amount" "id" .float .int) := by
  intro product quoted
  refine ⟨⟨((piecesOf product.toList).toOption.getD []).dropLast, ?_, ?_⟩, ?_,
    ⟨((piecesOf quoted.toList).toOption.getD []).dropLast, ?_, ?_⟩, ?_⟩ <;> decide +kernel

/-- The parameter of a bound template fits every field that its placeholders are meant for. -/
theorem fits_of_ofTemplate {bound : BoundTemplate} {front back : List Piece} {name column : String}
    {quote : Option Char} {index : Nat} {param : Param} {field : Field}
    (h : ofTemplate template params entity dialect = .ok bound)
    (hpieces : piecesOf template.toList = .ok (front ++ .placeholder name quote :: back))
    (hnamed : FirstNamed params name index) (hparam : params[index]? = some param)
    (htarget : IsInserted front back column ∨ IsCompared front column)
    (hfield : entity.field? column = some field) : param.type.fits field.type = true := by
  obtain ⟨pieces, used, hfound, hused, hchecked, -⟩ := ofTemplate_eq_ok h
  obtain rfl := Except.ok.inj (hpieces.symm.trans hfound)
  exact checkColumn_eq_ok (checkColumns_eq_ok hchecked
    ((getElem?_params_iff hused).mpr ⟨index, hnamed, hparam⟩)
    (getElem?_targetColumns_iff.mpr htarget)) hfield

/-- **Values of an `INSERT`.** A template is refused if the first row of its `INSERT` has for a
value a placeholder alone, whose parameter does not fit the field of that value's column. -/
theorem exists_error_of_isInserted {front back : List Piece} {name column : String}
    {quote : Option Char} {index : Nat} {param : Param} {field : Field}
    (hpieces : piecesOf template.toList = .ok (front ++ .placeholder name quote :: back))
    (hinserted : IsInserted front back column) (hfield : entity.field? column = some field)
    (hnamed : FirstNamed params name index) (hparam : params[index]? = some param)
    (hfits : param.type.fits field.type = false) :
    ∃ fault, ofTemplate template params entity dialect = .error fault := by
  cases hbind : ofTemplate template params entity dialect with
  | error fault => exact ⟨fault, rfl⟩
  | ok bound =>
      rw [fits_of_ofTemplate hbind hpieces hnamed hparam (.inl hinserted) hfield] at hfits
      cases hfits

end

end BoundTemplate

/-- What shows around the second value of the row. -/
def Accounts.insertion : Insertion where
  head := "INSERT INTO accounts ".toList
  columns := {
    earlier := ["owner".toList]
    later := []
    isItem_earlier := by decide +kernel
    isItem_later := nofun }
  column := " \"id\"".toList
  between := " VALUES ".toList
  values := {
    earlier := ["lower('    ')".toList]
    later := []
    isItem_earlier := by decide +kernel
    isItem_later := nofun }
  introduces_head := ⟨[], "INSERT INTO accounts ".toList, rfl,
    firstWordAt_of_all_not (by decide) rfl (by decide +kernel), by decide +kernel⟩
  isItem_column := by decide +kernel
  introduces_between := ⟨[' '], "VALUES ".toList, by decide +kernel,
    firstWordAt_of_all_not (by decide) rfl (by decide +kernel), by decide +kernel⟩
  length_eq := rfl

namespace BoundTemplate

/-- Commas stand in the literal of the first value and in the comment before the second one. -/
theorem exists_error_of_isInserted_accounts :
    let template := "INSERT INTO accounts (owner, \"id\") VALUES (lower('a, b'), /*,*/\x7bowner\x7d)"
    ∃ front back,
      piecesOf template.toList = .ok (front ++ .placeholder "owner" none :: back) ∧
        IsInserted front back "id" ∧
        Accounts.entity.field? "id" = some ⟨"id", .int, false⟩ ∧
        FirstNamed Accounts.find.params "owner" 0 ∧
        Accounts.find.params[0]? = some ⟨"owner", .text, true⟩ ∧
        ValueType.text.fits .int = false ∧
        ∃ fault, ofTemplate template Accounts.find.params Accounts.entity .postgres =
          .error fault := by
  intro template
  let pieces := (piecesOf template.toList).toOption.getD []
  have hpieces : piecesOf template.toList =
      .ok (pieces.take 63 ++ .placeholder "owner" none :: pieces.drop 64) := by
    decide +kernel
  have hcolumn : EndsInColumn Accounts.insertion.column "id" :=
    columnAtEnd?_eq_some_iff.mp (by decide +kernel)
  have hinserted : IsInserted (pieces.take 63) (pieces.drop 64) "id" := by
    refine ⟨Accounts.insertion, pieces.take 57, (pieces.take 63).drop 57, [], pieces.drop 64, [],
      ?_, rfl, ?_, ?_, ?_, rfl, ?_, hcolumn⟩ <;> decide +kernel
  have hnamed : FirstNamed Accounts.find.params "owner" 0 :=
    findParam_eq_ok (by decide +kernel)
  have hfield : Accounts.entity.field? "id" = some ⟨"id", .int, false⟩ := by decide +kernel
  exact ⟨_, _, hpieces, hinserted, hfield, hnamed, rfl, rfl,
    exists_error_of_isInserted hpieces hinserted hfield hnamed rfl rfl⟩

/-- The rows behind the first one are not checked. -/
theorem ofTemplate_accounts_of_laterRow :
    let template :=
      "INSERT INTO accounts (id, owner) VALUES (\x7bid\x7d, 'a'), (\x7bowner\x7d, 'b')"
    (∃ front back, piecesOf template.toList = .ok (front ++ .placeholder "owner" none :: back) ∧
        front.flatMap Piece.source =
          "INSERT INTO accounts (id, owner) VALUES (\x7bid\x7d, 'a'), (".toList ∧
        back.flatMap Piece.source = ", 'b')".toList) ∧
      Accounts.entity.field? "id" = some ⟨"id", .int, false⟩ ∧
      FirstNamed Accounts.find.params "owner" 0 ∧
      Accounts.find.params[0]? = some ⟨"owner", .text, true⟩ ∧
      ValueType.text.fits .int = false ∧
      ofTemplate template Accounts.find.params Accounts.entity .postgres = .ok {
        sql := "INSERT INTO accounts (id, owner) VALUES ($1, 'a'), ($2, 'b')"
        binds := [1, 0]
        returnsRows := false
        unused := [] } := by
  intro template
  let pieces := (piecesOf template.toList).toOption.getD []
  refine ⟨⟨pieces.take 51, pieces.drop 52, ?_, ?_, ?_⟩, ?_, findParam_eq_ok ?_, rfl, rfl, ?_⟩ <;>
    decide +kernel

end BoundTemplate

end QueryMethods
