import QueryMethods.Proofs.Dialect
import QueryMethods.Proofs.Registry.Prepared
import QueryMethods.Proofs.Template.Pieces

/-!
# Arguments of a template

Every placeholder of a bound template gives way to the marker of a slot, and the slot belongs to the
parameter that the placeholder names. A call puts its checked arguments into the slots, so that the
database finds behind each marker the argument that was written in its place.
-/

namespace QueryMethods

namespace BoundTemplate

/-- The slot of the placeholder of that number, where `used` are the parameters of all of them. -/
def slotOf (dialect : Dialect) (used : List Nat) (number : Nat) : Nat :=
  match dialect with
  | .postgres => (used[number]?.elim 0 used.eraseDups.idxOf) + 1
  | .positional => number + 1

theorem assignSlots_eq (dialect : Dialect) (used : List Nat) :
    assignSlots dialect.reusesMarkers [] used =
      ((List.range' 0 used.length).map (slotOf dialect used),
        match dialect with
        | .postgres => used.eraseDups
        | .positional => used) := by
  cases dialect with
  | postgres =>
      have hslots : used.map (fun param => used.eraseDups.idxOf param + 1) =
          (List.range' 0 used.length).map (slotOf .postgres used) := by
        refine List.ext_getElem (by simp) fun number hleft hright => ?_
        have hnumber : number < used.length := by simpa using hleft
        simp [slotOf, hnumber]
      rw [Dialect.reusesMarkers, assignSlots_reuse List.eraseDups_nil, List.nil_append, hslots]
  | positional =>
      rw [Dialect.reusesMarkers, assignSlots_fresh, List.nil_append, List.length_nil]
      simp [slotOf, List.range'_eq_map_range, Nat.add_comm 1]

/-- The slots of a bound template, and what its text shows. -/
structure Placed (template : String) (params : List Param) (dialect : Dialect)
    (bound : BoundTemplate) (pieces : List Piece) (used : List Nat) (slot : Nat → Nat) : Prop where
  pieces_eq : piecesOf template.toList = .ok pieces
  /-- Every placeholder names its parameter. -/
  named : List.Forall₂ (FirstNamed params) (placeholders pieces) used
  binds_eq : bound.binds = match dialect with
    | .postgres => used.eraseDups
    | .positional => used
  slot_eq : ∀ number param, used[number]? = some param → slot number = match dialect with
    | .postgres => bound.binds.idxOf param + 1
    | .positional => number + 1
  marker_eq : ∀ number, dialect.slot? (dialect.marker (slot number)) number = some (slot number)
  sql_eq : bound.sql.toList = writeFrom (fun number => dialect.marker (slot number)) 0 pieces
  /-- The marker stands where the template has the placeholder. -/
  replaced : ∀ before name quote after, pieces = before ++ .placeholder name quote :: after →
    template.toList = before.flatMap Piece.source ++
        ((Piece.placeholder name quote).source ++ after.flatMap Piece.source) ∧
      bound.sql.toList =
        writeFrom (fun number => dialect.marker (slot number)) 0 before ++
          ((dialect.marker (slot (placeholders before).length)).toList ++
            writeFrom (fun number => dialect.marker (slot number))
              ((placeholders before).length + 1) after) ∧
      (placeholders pieces)[(placeholders before).length]? = some name
  unused_eq : bound.unused =
    (params.zipIdx.filter fun entry => entry.2 ∉ used).map (·.1.name)

theorem unusedNames_eq (params : List Param) (used : List Nat) :
    unusedNames params used =
      (params.zipIdx.filter fun entry => entry.2 ∉ used).map (·.1.name) := by
  unfold unusedNames
  induction params.zipIdx with
  | nil => rfl
  | cons entry rest ih =>
      by_cases hused : entry.2 ∈ used <;> simpa [hused] using ih

theorem placed_of_ofTemplate {template : String} {params : List Param} {entity : Entity}
    {dialect : Dialect} {bound : BoundTemplate}
    (h : ofTemplate template params entity dialect = .ok bound) :
    ∃ pieces used, bound.Placed template params dialect pieces used (slotOf dialect used) := by
  obtain ⟨pieces, used, hpieces, hused, _, hbound⟩ := ofTemplate_eq_ok h
  have hnamed := firstNamed_of_mapM hused
  have hsource := source_of_piecesOf hpieces
  have hsql : bound.sql.toList =
      writeFrom (fun number => dialect.marker (slotOf dialect used number)) 0 pieces := by
    rw [hbound, assignSlots_eq, List.map_map, String.toList_ofList, ← hnamed.length_eq]
    exact fill_eq_writeFrom (fun number => dialect.marker (slotOf dialect used number)) 0 pieces
  refine ⟨pieces, used, ?_⟩
  constructor
  case pieces_eq => exact hpieces
  case named => exact hnamed
  case binds_eq => rw [hbound, assignSlots_eq]
  case slot_eq =>
    intro number param hparam
    rw [hbound, assignSlots_eq]
    cases dialect <;> simp [slotOf, hparam]
  case marker_eq =>
    intro number
    cases dialect with
    | postgres => exact Dialect.slot?_marker_postgres _ number
    | positional => rfl
  case sql_eq => exact hsql
  case replaced =>
    rintro before name quote after rfl
    refine ⟨?_, ?_, ?_⟩
    · rw [← hsource, List.flatMap_append, List.flatMap_cons]
    · rw [hsql, writeFrom_append, writeFrom, Nat.zero_add]
    · rw [placeholders_append, List.getElem?_append_right (Nat.le_refl _), Nat.sub_self]
      rfl
  case unused_eq => rw [hbound, unusedNames_eq]

theorem Placed.bind_of_slot {template : String} {params : List Param} {dialect : Dialect}
    {bound : BoundTemplate} {pieces : List Piece} {used : List Nat} {slot : Nat → Nat}
    (h : bound.Placed template params dialect pieces used slot) {number param : Nat}
    (hparam : used[number]? = some param) :
    ∃ place, slot number = place + 1 ∧ bound.binds[place]? = some param := by
  have hslot := h.slot_eq number param hparam
  cases dialect with
  | postgres =>
      refine ⟨_, hslot, List.getElem?_idxOf ?_⟩
      rw [h.binds_eq]
      exact List.mem_eraseDups.mpr (List.mem_of_getElem? hparam)
  | positional => exact ⟨number, hslot, by rw [h.binds_eq, hparam]⟩

end BoundTemplate

/-- A call of a registered method with that template, whose arguments are accepted. -/
structure TemplateCall (template : String) (params : List Param) (entity : Entity)
    (dialect : Dialect) where
  registry : Registry
  ref : MethodRef
  repository : Repository
  method : Method
  args : List Value
  values : List Value
  reachable : registry.Reachable
  dialect_eq : registry.config.dialect = dialect
  repository_eq : registry.repository? ref.repository = some repository
  entity_eq : repository.entity = entity
  method_eq : registry.method? ref = some method
  params_eq : method.params = params
  kind_eq : method.kind = .template template
  accepted : method.checkArguments args = .ok values

namespace TemplateCall

variable {template : String} {params : List Param} {entity : Entity} {dialect : Dialect}

/-- The session receives, behind the slot of each placeholder, the checked argument of the parameter
that it names, as a value of the type that the parameter declares. -/
def Receives (call : TemplateCall template params entity dialect) (bound : BoundTemplate)
    (used : List Nat) (slot : Nat → Nat) : Prop :=
  ∃ binds, (∀ database : Database, database.openFault = none →
      (call.registry.invoke database call.ref call.args).events[1]? =
        some (if bound.returnsRows then .fetch bound.sql binds else .execute bound.sql binds)) ∧
    ∀ number index, used[number]? = some index →
      ∃ place param value, slot number = place + 1 ∧ params[index]? = some param ∧
        call.values[index]? = some value ∧ binds[place]? = some ⟨param.type, value⟩

theorem receives (call : TemplateCall template params entity dialect) {bound : BoundTemplate}
    {pieces : List Piece} {used : List Nat} {slot : Nat → Nat}
    (hbound : BoundTemplate.ofTemplate template params entity dialect = .ok bound)
    (hplaced : bound.Placed template params dialect pieces used slot) :
    call.Receives bound used slot := by
  obtain ⟨other, hother, hentry⟩ :=
    call.reachable.template_entry call.repository_eq call.method_eq call.kind_eq
  rw [call.params_eq, call.entity_eq, call.dialect_eq, hbound] at hother
  obtain rfl := Except.ok.inj hother
  obtain ⟨binds, hprepare, hvalues⟩ := Registry.exists_prepare call.reachable hentry call.accepted
  refine ⟨binds, fun database hopen => ?_, fun number index hindex => ?_⟩
  · rw [Registry.events_of_prepare hprepare hopen]
    rfl
  · obtain ⟨place, hslot, hbind⟩ := hplaced.bind_of_slot hindex
    obtain ⟨_, hreceived, param, value, hparam, hvalue, rfl⟩ :=
      exists_getElem?_of_forall₂ hvalues hbind
    exact ⟨place, param, value, hslot, call.params_eq ▸ hparam, hvalue, hreceived⟩

end TemplateCall

/-- **Arguments of a template.** Every placeholder gives way to the marker of a slot of the
parameter that it names, and a call puts the checked argument of that parameter into the slot. -/
theorem BoundTemplate.exists_placed {template : String} {params : List Param} {entity : Entity}
    {dialect : Dialect} {bound : BoundTemplate}
    (h : ofTemplate template params entity dialect = .ok bound) :
    ∃ pieces used slot, bound.Placed template params dialect pieces used slot ∧
      ∀ call : TemplateCall template params entity dialect, call.Receives bound used slot := by
  obtain ⟨pieces, used, hplaced⟩ := placed_of_ofTemplate h
  exact ⟨pieces, used, slotOf dialect used, hplaced, fun call => call.receives h hplaced⟩

theorem BoundTemplate.exists_placed_deposit :
    ∃ bound, ofTemplate (Accounts.deposit.template.getD "") Accounts.deposit.params
        Accounts.entity .postgres = .ok bound ∧
      bound.sql = "UPDATE accounts SET balance = balance + $1 WHERE id = $2 OR $1 = 0" ∧
      ∃ pieces used slot,
        bound.Placed (Accounts.deposit.template.getD "") Accounts.deposit.params .postgres
          pieces used slot ∧
        ∃ call : TemplateCall (Accounts.deposit.template.getD "") Accounts.deposit.params
            Accounts.entity .postgres,
          call.args = [.int 5, .int 7] ∧ call.Receives bound used slot := by
  let call : TemplateCall (Accounts.deposit.template.getD "") Accounts.deposit.params
      Accounts.entity .postgres :=
    { registry := Accounts.registry
      ref := ⟨"accounts", "deposit"⟩
      repository := (Accounts.registry.repository? "accounts").getD ⟨Accounts.entity, []⟩
      method := Accounts.deposit
      args := [.int 5, .int 7]
      values := [.float (.ofInt 5), .int 7]
      reachable := Accounts.reachable_registry
      dialect_eq := by decide +kernel
      repository_eq := by decide +kernel
      entity_eq := by decide +kernel
      method_eq := by decide +kernel
      params_eq := rfl
      kind_eq := by decide +kernel
      accepted := by decide +kernel }
  have hbound : ofTemplate (Accounts.deposit.template.getD "") Accounts.deposit.params
      Accounts.entity .postgres = .ok {
        sql := "UPDATE accounts SET balance = balance + $1 WHERE id = $2 OR $1 = 0"
        binds := [0, 1]
        returnsRows := false
        unused := [] } := by
    decide +kernel
  obtain ⟨pieces, used, slot, hplaced, hreceives⟩ := exists_placed hbound
  exact ⟨_, hbound, rfl, pieces, used, slot, hplaced, call, rfl, hreceives call⟩

end QueryMethods
