import QueryMethods.Template.Binding
import QueryMethods.Proofs.Checked

/-!
# Slots of a template

The uses of parameters in a template are given slots from left to right. Where markers are numbered,
a parameter has one slot, at the place of its first use; where they are not, every use has its own.
-/

namespace QueryMethods

/-- The parameter of that index is the first of that name, in any ASCII case. -/
def FirstNamed (params : List Param) (name : String) (index : Nat) : Prop :=
  (∃ param, params[index]? = some param ∧ sameName param.name name = true) ∧
    ∀ earlier param, earlier < index → params[earlier]? = some param →
      sameName param.name name = false

theorem FirstNamed.lt_length {params : List Param} {name : String} {index : Nat}
    (h : FirstNamed params name index) : index < params.length := by
  obtain ⟨⟨param, hparam, _⟩, _⟩ := h
  exact (List.getElem?_eq_some_iff.mp hparam).1

namespace BoundTemplate

theorem findParam_eq_ok {params : List Param} {name : String} {index : Nat}
    (h : findParam params name = .ok index) : FirstNamed params name index := by
  unfold findParam at h
  cases hfind : params.findIdx? fun param => sameName param.name name with
  | none => rw [hfind] at h; cases h
  | some found =>
      rw [hfind] at h
      have hindex : found = index := Except.ok.inj h
      obtain ⟨hlt, hsame, hearlier⟩ := List.findIdx?_eq_some_iff_getElem.mp (hindex ▸ hfind)
      refine ⟨⟨params[index], List.getElem?_eq_getElem hlt, hsame⟩, ?_⟩
      intro earlier param hle hparam
      have hmiss := hearlier earlier hle
      obtain ⟨_, rfl⟩ := List.getElem?_eq_some_iff.mp hparam
      simpa using hmiss

theorem findParam_of_firstNamed {params : List Param} {name : String} {index : Nat}
    (h : FirstNamed params name index) : findParam params name = .ok index := by
  obtain ⟨⟨param, hparam, hsame⟩, hearlier⟩ := h
  obtain ⟨hlt, rfl⟩ := List.getElem?_eq_some_iff.mp hparam
  have hfind : params.findIdx? (fun param => sameName param.name name) = some index := by
    refine List.findIdx?_eq_some_iff_getElem.mpr ⟨hlt, hsame, fun earlier hle => ?_⟩
    have hmiss := hearlier earlier _ hle (List.getElem?_eq_getElem (Nat.lt_trans hle hlt))
    simpa using hmiss
  rw [findParam, hfind]

theorem firstNamed_of_mapM {params : List Param} {names : List String} {used : List Nat}
    (h : names.mapM (findParam params) = .ok used) :
    List.Forall₂ (FirstNamed params) names used :=
  (mapM_eq_ok_iff.mp h).imp fun _ _ => findParam_eq_ok

theorem eraseDups_append_of_mem {binds rest : List Nat} {param : Nat} (h : param ∈ binds) :
    (binds ++ param :: rest).eraseDups = (binds ++ rest).eraseDups := by
  rw [List.eraseDups_append, List.eraseDups_append]
  simp [List.removeAll, h]

theorem eraseDups_append_singleton {binds : List Nat} {param : Nat} (h : param ∉ binds)
    (hbinds : binds.eraseDups = binds) : (binds ++ [param]).eraseDups = binds ++ [param] := by
  rw [List.eraseDups_append, hbinds]
  simp [List.removeAll, h, List.eraseDups_cons]

theorem eraseDups_append_eq {binds : List Nat} (hbinds : binds.eraseDups = binds)
    (used : List Nat) : ∃ later, (binds ++ used).eraseDups = binds ++ later := by
  rw [List.eraseDups_append, hbinds]
  exact ⟨_, rfl⟩

theorem idxOf?_of_mem {binds : List Nat} {param : Nat} (h : param ∈ binds) :
    binds.idxOf? param = some (binds.idxOf param) := by
  obtain ⟨index, hindex⟩ := Option.isSome_iff_exists.mp (List.isSome_idxOf?.mpr h)
  have hvalue := List.idxOf_eq_getD_idxOf? param binds
  rw [hindex] at hvalue ⊢
  rw [hvalue]
  rfl

/-- A parameter has the slot of its place among all that are used, each counted once. -/
theorem assignSlots_reuse {binds : List Nat} (hbinds : binds.eraseDups = binds)
    (used : List Nat) :
    assignSlots true binds used =
      (used.map fun param => (binds ++ used).eraseDups.idxOf param + 1,
        (binds ++ used).eraseDups) := by
  induction used generalizing binds with
  | nil => simp [assignSlots, hbinds]
  | cons param rest ih =>
      by_cases hmem : param ∈ binds
      · have hfound := idxOf?_of_mem hmem
        obtain ⟨later, hlater⟩ := eraseDups_append_eq hbinds rest
        have hslot : (binds ++ rest).eraseDups.idxOf param = binds.idxOf param := by
          rw [hlater, List.idxOf_append, if_pos hmem]
        simp only [assignSlots, if_true, hfound, ih hbinds, eraseDups_append_of_mem hmem,
          List.map_cons, hslot]
      · have hmissing : binds.idxOf? param = none := List.idxOf?_eq_none_iff.mpr hmem
        have hnext := eraseDups_append_singleton hmem hbinds
        obtain ⟨later, hlater⟩ := eraseDups_append_eq hnext rest
        have hassoc : binds ++ param :: rest = binds ++ [param] ++ rest := by simp
        have hslot : (binds ++ [param] ++ rest).eraseDups.idxOf param = binds.length := by
          rw [hlater, List.append_assoc, List.idxOf_append, if_neg hmem]
          simp
        simp only [assignSlots, if_true, hmissing, ih hnext, hassoc, List.map_cons, hslot]

/-- Every use has the next slot. -/
theorem assignSlots_fresh (binds used : List Nat) :
    assignSlots false binds used = (List.range' (binds.length + 1) used.length, binds ++ used) := by
  induction used generalizing binds with
  | nil => simp [assignSlots]
  | cons param rest ih =>
      simp [assignSlots, ih, List.range'_succ]

theorem mem_assignSlots {reuse : Bool} {used : List Nat} {param : Nat}
    (h : param ∈ (assignSlots reuse [] used).2) : param ∈ used := by
  cases reuse with
  | true =>
      rw [assignSlots_reuse List.eraseDups_nil] at h
      simpa using h
  | false =>
      rw [assignSlots_fresh] at h
      simpa using h

theorem ofTemplate_eq_ok {template : String} {params : List Param} {entity : Entity}
    {dialect : Dialect} {bound : BoundTemplate}
    (h : ofTemplate template params entity dialect = .ok bound) :
    ∃ pieces used, piecesOf template.toList = .ok pieces ∧
      (placeholders pieces).mapM (findParam params) = .ok used ∧
      checkColumns entity (used.filterMap (params[·]?)) (targetColumns (mask pieces)) = .ok () ∧
      bound = {
        sql := String.ofList (fill
          ((assignSlots dialect.reusesMarkers [] used).1.map dialect.marker) pieces)
        binds := (assignSlots dialect.reusesMarkers [] used).2
        returnsRows := producesRows (visible (mask pieces))
        unused := unusedNames params used } := by
  unfold ofTemplate at h
  cases hpieces : piecesOf template.toList with
  | error fault => rw [hpieces] at h; cases h
  | ok pieces =>
      cases hused : (placeholders pieces).mapM (findParam params) with
      | error fault => rw [hpieces] at h; simp only [bind, Except.bind, hused] at h; cases h
      | ok used =>
          rw [hpieces] at h
          simp only [bind, Except.bind, hused] at h
          cases hcolumns : checkColumns entity (used.filterMap (params[·]?))
              (targetColumns (mask pieces)) with
          | error fault => simp only [hcolumns] at h; cases h
          | ok checked =>
              simp only [hcolumns] at h
              exact ⟨pieces, used, rfl, hused, hcolumns, (Except.ok.inj h).symm⟩

theorem lt_length_of_mem_binds {template : String} {params : List Param} {entity : Entity}
    {dialect : Dialect} {bound : BoundTemplate}
    (h : ofTemplate template params entity dialect = .ok bound) {param : Nat}
    (hmem : param ∈ bound.binds) : param < params.length := by
  obtain ⟨pieces, used, _, hused, _, rfl⟩ := ofTemplate_eq_ok h
  have hnamed := firstNamed_of_mapM hused
  obtain ⟨name, _, hfirst⟩ := exists_of_mem_forall₂ hnamed (mem_assignSlots hmem)
  exact hfirst.lt_length

end BoundTemplate

end QueryMethods
