import Mathlib.Control.Monad.Basic
import Mathlib.Data.List.Forall2

/-! Lists that are checked item by item, where the first fault decides. -/

namespace QueryMethods

variable {ε α β : Type} {f : α → Except ε β}

theorem mapM_cons_eq_ok {item : α} {items : List α} {results : List β}
    (h : (item :: items).mapM f = .ok results) :
    ∃ result rest, f item = .ok result ∧ items.mapM f = .ok rest ∧ results = result :: rest := by
  rw [List.mapM_cons] at h
  cases hitem : f item with
  | error fault => rw [hitem] at h; cases h
  | ok result =>
      cases hitems : items.mapM f with
      | error fault => rw [hitem, hitems] at h; cases h
      | ok rest =>
          rw [hitem, hitems] at h
          exact ⟨result, rest, rfl, rfl, (Except.ok.inj h).symm⟩

/-- The check of a list succeeds exactly when the check of every item does. -/
theorem mapM_eq_ok_iff {items : List α} {results : List β} :
    items.mapM f = .ok results ↔
      List.Forall₂ (fun item result => f item = .ok result) items results := by
  constructor
  · intro h
    induction items generalizing results with
    | nil =>
        have hnil : [] = results := Except.ok.inj h
        exact hnil ▸ .nil
    | cons item items ih =>
        obtain ⟨result, rest, hitem, hitems, rfl⟩ := mapM_cons_eq_ok h
        exact .cons hitem (ih hitems)
  · intro h
    induction h with
    | nil => rfl
    | cons hitem _ ih =>
        rw [List.mapM_cons, hitem, ih]
        rfl

theorem exists_mapM_eq_ok {items : List α} (h : ∀ item ∈ items, ∃ result, f item = .ok result) :
    ∃ results, items.mapM f = .ok results := by
  induction items with
  | nil => exact ⟨[], rfl⟩
  | cons item items ih =>
      obtain ⟨⟨result, hresult⟩, hitems⟩ := List.forall_mem_cons.mp h
      obtain ⟨results, hresults⟩ := ih hitems
      exact ⟨result :: results, mapM_eq_ok_iff.mpr (.cons hresult (mapM_eq_ok_iff.mp hresults))⟩

theorem eq_error_of_map {result : Except ε α} {f : α → β} {fault : ε}
    (h : result.map f = .error fault) : result = .error fault := by
  cases result with
  | error found => exact congrArg Except.error (Except.error.inj h)
  | ok value => cases h

theorem Except.map_map_ok {ε α β γ : Type*} (result : Except ε α) (f : α → β) (g : β → γ) :
    (result.map f).map g = result.map (g ∘ f) := by
  cases result <;> rfl

theorem map_eq_error_iff {result : Except ε α} {f : α → β} {fault : ε} :
    result.map f = .error fault ↔ result = .error fault := by
  constructor
  · exact eq_error_of_map
  · intro h
    rw [h]
    rfl

theorem mapError_eq_ok_iff {result : Except ε α} {f : ε → β} {value : α} :
    result.mapError f = .ok value ↔ result = .ok value := by
  cases result <;> simp [Except.mapError]

theorem exists_eq_error_of_mapError {result : Except ε α} {f : ε → β} {fault : β}
    (h : result.mapError f = .error fault) : ∃ found, result = .error found ∧ fault = f found := by
  cases result with
  | error found => exact ⟨found, rfl, (Except.error.inj h).symm⟩
  | ok value => cases h

theorem eq_error_of_bind {result : Except ε α} {next : α → Except ε β} {fault : ε}
    (h : result.bind next = .error fault) :
    result = .error fault ∨ ∃ value, result = .ok value ∧ next value = .error fault := by
  cases result with
  | error found => exact .inl (congrArg Except.error (Except.error.inj h))
  | ok value => exact .inr ⟨value, rfl, h⟩

/-- The fault of a list is that of its first item that has one. -/
theorem mapM_eq_error_iff {items : List α} {fault : ε} :
    items.mapM f = .error fault ↔
      ∃ (place : Nat) (item : α), items[place]? = some item ∧ f item = .error fault ∧
        ∀ earlier < place, ∀ other, items[earlier]? = some other →
          ∃ result, f other = .ok result := by
  constructor
  · intro h
    induction items with
    | nil => cases h
    | cons item items ih =>
        rw [List.mapM_cons] at h
        cases hitem : f item with
        | error found =>
            rw [hitem] at h
            obtain rfl : found = fault := Except.error.inj h
            exact ⟨0, item, rfl, hitem, nofun⟩
        | ok result =>
            cases hitems : items.mapM f with
            | ok rest => rw [hitem, hitems] at h; cases h
            | error found =>
                rw [hitem, hitems] at h
                obtain rfl : found = fault := Except.error.inj h
                obtain ⟨place, later, hplace, hlater, hearlier⟩ := ih hitems
                refine ⟨place + 1, later, hplace, hlater, fun earlier hlt other hother => ?_⟩
                cases earlier with
                | zero => exact ⟨result, Option.some.inj hother ▸ hitem⟩
                | succ earlier =>
                    exact hearlier earlier (Nat.lt_of_succ_lt_succ hlt) other hother
  · rintro ⟨place, item, hplace, hitem, hearlier⟩
    induction items generalizing place with
    | nil => cases hplace
    | cons first items ih =>
        rw [List.mapM_cons]
        cases place with
        | zero =>
            obtain rfl : first = item := Option.some.inj hplace
            rw [hitem]
            rfl
        | succ place =>
            obtain ⟨result, hfirst⟩ := hearlier 0 (Nat.zero_lt_succ place) first rfl
            have hrest := ih place hplace fun earlier hlt =>
              hearlier (earlier + 1) (Nat.succ_lt_succ hlt)
            rw [hfirst, hrest]
            rfl

/-- The first fault of a list is the fault of one of its items. -/
theorem exists_of_mapM_eq_error {items : List α} {fault : ε} (h : items.mapM f = .error fault) :
    ∃ (place : Nat) (item : α), items[place]? = some item ∧ f item = .error fault := by
  obtain ⟨place, item, hplace, hitem, -⟩ := mapM_eq_error_iff.mp h
  exact ⟨place, item, hplace, hitem⟩

/-- A list of options is there as a whole exactly when every item is. -/
theorem mapM_eq_some_iff {f : α → Option β} {items : List α} {results : List β} :
    items.mapM f = some results ↔
      List.Forall₂ (fun item result => f item = some result) items results := by
  induction items generalizing results with
  | nil => cases results <;> simp
  | cons item items ih =>
      rw [List.mapM_cons, List.forall₂_cons_left_iff]
      cases hitem : f item with
      | none => simp
      | some result =>
          cases hitems : items.mapM f with
          | none =>
              have hnone : ∀ rest, ¬ List.Forall₂ (fun item result => f item = some result)
                  items rest := by
                intro rest hrest
                rw [ih.mpr hrest] at hitems
                cases hitems
              simp [hnone]
          | some rest => simp [← ih, hitems, eq_comm]

/-- A list of which every item has a result is filtered for all results in their order. -/
theorem forall₂_filterMap {f : α → Option β} {items : List α}
    (h : ∀ item ∈ items, ∃ result, f item = some result) :
    List.Forall₂ (fun item result => f item = some result) items (items.filterMap f) := by
  induction items with
  | nil => exact .nil
  | cons item items ih =>
      obtain ⟨⟨result, hresult⟩, hitems⟩ := List.forall_mem_cons.mp h
      rw [List.filterMap_cons_some hresult]
      exact .cons hresult (ih hitems)

theorem exists_of_mem_forall₂ {R : α → β → Prop} {items : List α} {results : List β}
    (h : List.Forall₂ R items results) {result : β} (hmem : result ∈ results) :
    ∃ item ∈ items, R item result := by
  induction h with
  | nil => cases hmem
  | cons hitem _ ih =>
      rcases List.mem_cons.mp hmem with rfl | hrest
      · exact ⟨_, List.mem_cons_self .., hitem⟩
      · obtain ⟨item, hmem, hrelated⟩ := ih hrest
        exact ⟨item, List.mem_cons_of_mem _ hmem, hrelated⟩

theorem exists_getElem?_of_forall₂ {R : α → β → Prop} {items : List α} {results : List β}
    (h : List.Forall₂ R items results) {place : Nat} {item : α}
    (hitem : items[place]? = some item) :
    ∃ result, results[place]? = some result ∧ R item result := by
  induction h generalizing place with
  | nil => cases hitem
  | cons hfirst _ ih =>
      cases place with
      | zero =>
          rw [List.getElem?_cons_zero, Option.some.injEq] at hitem
          exact ⟨_, rfl, hitem ▸ hfirst⟩
      | succ place => exact ih hitem

theorem forall₂_iff_getElem? {R : α → β → Prop} {items : List α} {results : List β} :
    List.Forall₂ R items results ↔ items.length = results.length ∧
      ∀ (place : Nat) item result, items[place]? = some item → results[place]? = some result →
        R item result := by
  constructor
  · intro h
    refine ⟨h.length_eq, fun place item result hitem hresult => ?_⟩
    obtain ⟨found, hfound, hrelated⟩ := exists_getElem?_of_forall₂ h hitem
    rw [hresult] at hfound
    exact Option.some.inj hfound ▸ hrelated
  · rintro ⟨hlength, hrelated⟩
    refine List.forall₂_iff_get.mpr ⟨hlength, fun place hitem hresult => ?_⟩
    exact hrelated place _ _ (List.getElem?_eq_getElem hitem) (List.getElem?_eq_getElem hresult)

/-- Two lists whose items share partners one by one share a list of partners. -/
theorem exists_forall₂_of_partners {γ : Type} {R : α → β → Prop} {P : α → γ → Prop}
    {Q : β → γ → Prop} {left : List α} {right : List β} (h : List.Forall₂ R left right)
    (hpartner : ∀ first second, R first second → ∃ partner, P first partner ∧ Q second partner) :
    ∃ partners, List.Forall₂ P left partners ∧ List.Forall₂ Q right partners := by
  induction h with
  | nil => exact ⟨[], .nil, .nil⟩
  | cons hfirst _ ih =>
      obtain ⟨partner, hleft, hright⟩ := hpartner _ _ hfirst
      obtain ⟨partners, hlefts, hrights⟩ := ih
      exact ⟨partner :: partners, .cons hleft hlefts, .cons hright hrights⟩

end QueryMethods
