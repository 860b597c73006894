import QueryMethods.Proofs.Template.Pieces
import QueryMethods.Proofs.Template.Slots

/-!
# Parameters against columns

The check of a placeholder goes by what the template shows on its left, and by the columns of an
`INSERT`. Binding is refused for a type exactly if one of the parameters does not fit the field of
its column.
-/

namespace QueryMethods

/-- The character that the checks see in the place of a piece. -/
def Piece.char : Piece → Char
  | .code c => c
  | _ => ' '

theorem visible_maskFrom (number : Nat) (pieces : List Piece) :
    visible (maskFrom number pieces) = pieces.map Piece.char := by
  induction pieces generalizing number with
  | nil => rfl
  | cons piece rest ih =>
      have hvisible : ∀ cell cells, visible (cell :: cells) = cell.char :: visible cells :=
        fun _ _ => rfl
      cases piece <;> rw [maskFrom, hvisible, ih, List.map_cons] <;> rfl

theorem maskFrom_append (number : Nat) (front back : List Piece) :
    maskFrom number (front ++ back) =
      maskFrom number front ++ maskFrom (number + (placeholders front).length) back := by
  induction front generalizing number with
  | nil => rfl
  | cons piece front ih =>
      cases piece <;> simp [maskFrom, placeholders, ih, Nat.add_assoc, Nat.add_comm 1]

theorem comparedColumns_append (number : Nat) (reversed : List Char) (front back : List Piece) :
    comparedColumns reversed (maskFrom number (front ++ back)) =
      comparedColumns reversed (maskFrom number front) ++
        comparedColumns ((front.map Piece.char).reverse ++ reversed)
          (maskFrom (number + (placeholders front).length) back) := by
  induction front generalizing number reversed with
  | nil => rfl
  | cons piece front ih =>
      cases piece <;>
        simp [maskFrom, comparedColumns, placeholders, Piece.char, Cell.char, ih, Nat.add_assoc,
          Nat.add_comm 1]

theorem length_comparedColumns (number : Nat) (reversed : List Char) (pieces : List Piece) :
    (comparedColumns reversed (maskFrom number pieces)).length = (placeholders pieces).length := by
  induction pieces generalizing number reversed with
  | nil => rfl
  | cons piece pieces ih => cases piece <;> simp [maskFrom, comparedColumns, placeholders, ih]

/-- An `INSERT` decides about a placeholder, and else what the template shows before it. -/
theorem getElem?_targetColumns (front back : List Piece) (name : String) (quote : Option Char) :
    (targetColumns (mask (front ++ .placeholder name quote :: back)))[
        (placeholders front).length]? =
      some (((insertedColumns (mask (front ++ .placeholder name quote :: back))).lookup
        (placeholders front).length).or (comparedColumn? (front.map Piece.char).reverse)) := by
  have hcompared : (comparedColumns [] (mask (front ++ .placeholder name quote :: back)))[
      (placeholders front).length]? = some (comparedColumn? (front.map Piece.char).reverse) := by
    have hlength := length_comparedColumns 0 [] front
    rw [mask, comparedColumns_append, List.getElem?_append_right (Nat.le_of_eq hlength), hlength,
      Nat.sub_self, List.append_nil]
    rfl
  rw [targetColumns, List.getElem?_mapIdx, hcompared]
  rfl

theorem exists_of_getElem?_placeholders {pieces : List Piece} {number : Nat} {name : String}
    (h : (placeholders pieces)[number]? = some name) :
    ∃ front quote back, pieces = front ++ .placeholder name quote :: back ∧
      (placeholders front).length = number := by
  induction pieces generalizing number with
  | nil => cases h
  | cons piece pieces ih =>
      have hlater : ∀ later, number = (placeholders [piece]).length + later →
          (placeholders pieces)[later]? = some name →
          ∃ front quote back, piece :: pieces = front ++ .placeholder name quote :: back ∧
            (placeholders front).length = number := by
        rintro later rfl hname
        obtain ⟨front, quote, back, rfl, rfl⟩ := ih hname
        refine ⟨piece :: front, quote, back, rfl, ?_⟩
        rw [← List.singleton_append, placeholders_append, List.length_append]
      cases piece with
      | placeholder found quote =>
          cases number with
          | zero => exact ⟨[], quote, pieces, by rw [Option.some.inj h]; rfl, rfl⟩
          | succ number => exact hlater number (Nat.add_comm number 1) h
      | _ => exact hlater number (Nat.zero_add number).symm h

namespace BoundTemplate

variable {entity : Entity} {param : Param} {column : Option String} {fault : TemplateFault}

theorem checkColumn_eq_ok {name : String} {field : Field}
    (h : checkColumn entity param (some name) = .ok ()) (hfield : entity.field? name = some field) :
    param.type.fits field.type = true := by
  rw [checkColumn, Option.bind_some, hfield] at h
  by_contra hfits
  simp [hfits] at h

theorem checkColumn_eq_error (h : checkColumn entity param column = .error fault) :
    ∃ name field, column = some name ∧ entity.field? name = some field ∧
      param.type.fits field.type = false ∧
      fault = .typeMismatch param.name field.name param.type field.type := by
  unfold checkColumn at h
  split at h
  · cases h
  · rename_i field hfield
    obtain ⟨name, hname, hfound⟩ := Option.bind_eq_some_iff.mp hfield
    split at h
    · cases h
    · rename_i hfits
      exact ⟨name, field, hname, hfound, Bool.eq_false_iff.mpr hfits, (Except.error.inj h).symm⟩

variable {params : List Param} {columns : List (Option String)} {number : Nat}

theorem checkColumns_cons_eq_ok
    (h : checkColumns entity (param :: params) (column :: columns) = .ok ()) :
    checkColumn entity param column = .ok () ∧ checkColumns entity params columns = .ok () := by
  rw [checkColumns] at h
  split at h
  · rename_i hcolumn
    exact ⟨hcolumn, h⟩
  · cases h

theorem checkColumns_eq_ok (h : checkColumns entity params columns = .ok ())
    (hparam : params[number]? = some param) (hcolumn : columns[number]? = some column) :
    checkColumn entity param column = .ok () := by
  induction params generalizing columns number with
  | nil => cases hparam
  | cons first params ih =>
      cases columns with
      | nil => cases hcolumn
      | cons head columns =>
          obtain ⟨hfirst, hlater⟩ := checkColumns_cons_eq_ok h
          cases number with
          | zero =>
              obtain rfl := Option.some.inj hparam
              obtain rfl := Option.some.inj hcolumn
              exact hfirst
          | succ number => exact ih hlater hparam hcolumn

theorem checkColumns_eq_error (h : checkColumns entity params columns = .error fault) :
    ∃ (number : Nat) (param : Param) (column : Option String), params[number]? = some param ∧
      columns[number]? = some column ∧ checkColumn entity param column = .error fault := by
  induction params generalizing columns with
  | nil => cases columns <;> cases h
  | cons first params ih =>
      cases columns with
      | nil => cases h
      | cons head columns =>
          rw [checkColumns] at h
          split at h
          · obtain ⟨number, param, column, hparam, hcolumn, hchecked⟩ := ih h
            exact ⟨number + 1, param, column, hparam, hcolumn, hchecked⟩
          · rename_i found hfound
            obtain rfl := Except.error.inj h
            exact ⟨0, first, head, rfl, rfl, hfound⟩

variable {template : String} {dialect : Dialect} {pieces : List Piece} {used : List Nat}

/-- Once the placeholders are known, the checks of the columns decide. -/
theorem ofTemplate_eq (hpieces : piecesOf template.toList = .ok pieces)
    (hused : (placeholders pieces).mapM (findParam params) = .ok used) :
    ofTemplate template params entity dialect =
      (checkColumns entity (used.filterMap (params[·]?)) (targetColumns (mask pieces))).map
        fun _ => {
          sql := String.ofList (fill
            ((assignSlots dialect.reusesMarkers [] used).1.map dialect.marker) pieces)
          binds := (assignSlots dialect.reusesMarkers [] used).2
          returnsRows := producesRows (visible (mask pieces))
          unused := unusedNames params used } := by
  rw [ofTemplate, hpieces]
  simp only [bind, Except.bind, hused]
  cases checkColumns entity (used.filterMap (params[·]?)) (targetColumns (mask pieces)) <;> rfl

theorem exists_findParam {name : String}
    (h : ∃ param ∈ params, sameName param.name name = true) :
    ∃ index, findParam params name = .ok index := by
  obtain ⟨param, hmem, hsame⟩ := h
  unfold findParam
  cases hfind : params.findIdx? fun param => sameName param.name name with
  | some index => exact ⟨index, rfl⟩
  | none =>
      rw [List.findIdx?_eq_none_iff] at hfind
      rw [hfind param hmem] at hsame
      cases hsame

theorem getElem?_filterMap_params (hused : ∀ index ∈ used, index < params.length) (number : Nat) :
    (used.filterMap (params[·]?))[number]? = used[number]?.bind (params[·]?) := by
  induction used generalizing number with
  | nil => rfl
  | cons index used ih =>
      obtain ⟨hindex, hlater⟩ := List.forall_mem_cons.mp hused
      have hparam : params[index]? = some params[index] := List.getElem?_eq_getElem hindex
      rw [List.filterMap_cons_some hparam]
      cases number with
      | zero => exact hparam.symm
      | succ number => exact ih hlater number

end BoundTemplate

end QueryMethods
