import QueryMethods.Registry.Invocation
import QueryMethods.Proofs.Condition.Slots
import QueryMethods.Proofs.Registry.CheckedArguments
import QueryMethods.Proofs.Registry.History
import QueryMethods.Proofs.Registry.Resolution
import QueryMethods.Proofs.Template.Slots

/-!
# What a call sends

In a registry that comes from registrations, a call is refused for two reasons alone: the method is
unknown or skipped, or it does not take the arguments. Any other call sends one statement, with a
value for each of its slots: a statement that is registered has no slot without a parameter, and
writing its condition anew for `NULL` arguments adds none.
-/

namespace QueryMethods

/-- The method is a template that is marked as modifying. -/
def Method.Persists (method : Method) : Prop :=
  (∃ sql, method.kind = .template sql) ∧ method.modifying = true

/-- No session is opened for such a call. -/
def Registry.Refuses (registry : Registry) (ref : MethodRef) (args : List Value) : Prop :=
  registry.method? ref = none ∨
    ∃ method, registry.method? ref = some method ∧
      (method.skip = true ∨ ∃ fault, method.checkArguments args = .error fault)

/-- The bind of a slot has the type of its parameter and the value that was checked for it. -/
def SlotValue (params : List Param) (values : List Value) (index : Nat) (bind : Bind) : Prop :=
  ∃ param value, params[index]? = some param ∧ values[index]? = some value ∧
    bind = ⟨param.type, value⟩

namespace Method

theorem length_checkArguments {method : Method} {args values : List Value}
    (h : method.checkArguments args = .ok values) : values.length = method.params.length := by
  have haccepts := checkArguments_eq_ok_iff.mp h
  exact haccepts.length_eq.trans haccepts.taken.length_eq.symm

end Method

namespace Statement

theorem forValues_eq (statement : Statement) (dialect : Dialect) (values : List Value) :
    ∃ sql binds, statement.forValues dialect values = { statement with sql, binds } := by
  unfold forValues
  split
  · exact ⟨_, _, rfl⟩
  · split
    · exact ⟨_, _, rfl⟩
    · exact ⟨_, _, rfl⟩

@[simp]
theorem shape_forValues (statement : Statement) (dialect : Dialect) (values : List Value) :
    (statement.forValues dialect values).shape = statement.shape := by
  obtain ⟨sql, binds, heq⟩ := statement.forValues_eq dialect values
  rw [heq]

@[simp]
theorem returnsRows_forValues (statement : Statement) (dialect : Dialect) (values : List Value) :
    (statement.forValues dialect values).returnsRows = statement.returnsRows := by
  obtain ⟨sql, binds, heq⟩ := statement.forValues_eq dialect values
  rw [heq]

@[simp]
theorem policy_forValues (statement : Statement) (dialect : Dialect) (values : List Value) :
    (statement.forValues dialect values).policy = statement.policy := by
  obtain ⟨sql, binds, heq⟩ := statement.forValues_eq dialect values
  rw [heq]

theorem bindValues_eq_ok_iff {statement : Statement} {params : List Param} {values : List Value}
    {binds : List Bind} :
    statement.bindValues params values = .ok binds ↔
      List.Forall₂ (SlotValue params values) statement.binds binds := by
  unfold bindValues
  rw [mapM_eq_ok_iff]
  constructor
  · refine fun h => h.imp fun index bind hslot => ?_
    unfold SlotValue
    cases hparam : params[index]? <;> cases hvalue : values[index]? <;>
      simp only [hparam, hvalue, reduceCtorEq, Except.ok.injEq] at hslot
    exact ⟨_, _, rfl, rfl, hslot.symm⟩
  · rintro h
    refine h.imp ?_
    rintro index bind ⟨param, value, hparam, hvalue, rfl⟩
    simp only [hparam, hvalue]

theorem exists_bindValues {statement : Statement} {params : List Param} {values : List Value}
    (hvalues : values.length = params.length)
    (h : ∀ index ∈ statement.binds, index < params.length) :
    ∃ binds, statement.bindValues params values = .ok binds := by
  simp only [bindValues_eq_ok_iff]
  generalize statement.binds = slots at h ⊢
  induction slots with
  | nil => exact ⟨[], .nil⟩
  | cons index rest ih =>
      have hparam := h index (List.mem_cons_self ..)
      have hvalue : index < values.length := hvalues ▸ hparam
      obtain ⟨binds, hbinds⟩ := ih fun other hmem => h other (List.mem_cons_of_mem _ hmem)
      exact ⟨_, .cons ⟨params[index], values[index], List.getElem?_eq_getElem hparam,
        List.getElem?_eq_getElem hvalue, rfl⟩ hbinds⟩

theorem binds_forValues {statement : Statement} {condition : Condition} {dialect : Dialect}
    (hsource : statement.source = .derived condition)
    (hbinds : statement.binds = (condition.render dialect []).binds) (values : List Value) :
    (statement.forValues dialect values).binds = condition.boundParams values := by
  unfold forValues
  simp only [hsource]
  by_cases hnull : values.any Value.isNull = true
  · rw [if_pos hnull, Condition.binds_render]
  · rw [if_neg hnull, hbinds, ← Condition.render_eq_of_no_null (Bool.eq_false_iff.mpr hnull),
      Condition.binds_render]

end Statement

namespace Entry.Resolved

variable {config : Config} {repository : String} {entity : Entity} {key : String} {entry : Entry}

/-- The two sources of a statement that is registered. -/
theorem statement_cases (h : entry.Resolved config repository entity key)
    {statement : Statement} (hstatement : entry.statement = some statement) :
    (∃ sql bound, entry.method.kind = .template sql ∧
      BoundTemplate.ofTemplate sql entry.method.params entity config.dialect = .ok bound ∧
      (bound.returnsRows = false → entry.method.shape = .scalar) ∧
      statement = .ofBound entity entry.method bound) ∨
    (∃ name condition, entry.method.kind = .derived ∧
      MethodName.parse entry.method.name = .ok (some name) ∧
      condition.leaves.map (·.2) = List.range entry.method.params.length ∧
      statement = .ofCondition config entity entry.method name.verb condition) := by
  rcases Method.resolve_eq_ok h.resolve_eq with ⟨_, hnone⟩ | ⟨sql, found, hkind, hsome, hfound⟩ |
    ⟨found, hkind, hsome, hfound⟩
  · rw [hnone] at hstatement
    cases hstatement
  · obtain rfl := Option.some.inj (hstatement.symm.trans hsome)
    obtain ⟨bound, hbound, hshape, rfl⟩ := Statement.ofTemplate_eq_ok hfound
    exact .inl ⟨sql, bound, hkind, hbound, hshape, rfl⟩
  · obtain rfl := Option.some.inj (hstatement.symm.trans hsome)
    obtain ⟨name, condition, hparse, halign, hcondition, rfl⟩ := Statement.derive_eq_ok hfound
    have hlength : name.fields.length = entry.method.params.length := by
      rw [MethodName.length_eq_of_align halign, List.length_map]
    exact .inr ⟨name, condition, hkind, hparse,
      Statement.leaves_of_conditionOf hlength hcondition, rfl⟩

theorem statement_eq_none_iff (h : entry.Resolved config repository entity key) :
    entry.statement = none ↔ entry.method.skip = true := by
  rw [← Method.kind_eq_skipped_iff]
  rcases Method.resolve_eq_ok h.resolve_eq with ⟨hkind, hnone⟩ | ⟨sql, found, hkind, hsome, _⟩ |
    ⟨found, hkind, hsome, _⟩
  · exact ⟨fun _ => hkind, fun _ => hnone⟩
  · simp [hkind, hsome]
  · simp [hkind, hsome]

theorem policy_eq_commit_iff (h : entry.Resolved config repository entity key)
    {statement : Statement} (hstatement : entry.statement = some statement) :
    statement.policy = .commit ↔ entry.method.Persists := by
  unfold Method.Persists
  rcases h.statement_cases hstatement with ⟨sql, bound, hkind, _, _, rfl⟩ |
    ⟨name, condition, hkind, _, _, rfl⟩
  · rw [hkind]
    cases hmodifying : entry.method.modifying <;>
      simp [Statement.ofBound, CommitPolicy.ofModifying, hmodifying]
  · simp [Statement.ofCondition, hkind]

theorem shape_of_no_rows (h : entry.Resolved config repository entity key)
    {statement : Statement} (hstatement : entry.statement = some statement)
    (hrows : statement.returnsRows = false) : statement.shape = .scalar := by
  rcases h.statement_cases hstatement with ⟨sql, bound, _, _, hshape, rfl⟩ |
    ⟨name, condition, _, _, _, rfl⟩
  · exact hshape hrows
  · cases hrows

theorem lt_length_of_mem_binds (h : entry.Resolved config repository entity key)
    {statement : Statement} (hstatement : entry.statement = some statement)
    (values : List Value) {index : Nat}
    (hmem : index ∈ (statement.forValues config.dialect values).binds) :
    index < entry.method.params.length := by
  rcases h.statement_cases hstatement with ⟨sql, bound, _, hbound, _, rfl⟩ |
    ⟨name, condition, _, _, hleaves, rfl⟩
  · exact BoundTemplate.lt_length_of_mem_binds hbound hmem
  · rw [Statement.binds_forValues rfl rfl] at hmem
    obtain ⟨field, hleaf⟩ := Condition.mem_leaves_of_mem_boundParams hmem
    have hrange : index ∈ condition.leaves.map (·.2) := List.mem_map_of_mem hleaf
    rw [hleaves] at hrange
    exact List.mem_range.mp hrange

end Entry.Resolved

namespace Registry.Reachable

variable {registry : Registry} {ref : MethodRef} {repository : Repository} {method : Method}

/-- A method that is not skipped has a statement, which it resolves to. -/
theorem exists_statement (hreach : registry.Reachable)
    (hrepository : registry.repository? ref.repository = some repository)
    (hmethod : registry.method? ref = some method) (hskip : method.kind ≠ .skipped) :
    ∃ statement, registry.entry? ref = some ⟨method, some statement⟩ ∧
      Entry.Resolved registry.config ref.repository repository.entity ref.method
        ⟨method, some statement⟩ := by
  obtain ⟨⟨_, found⟩, hentry, rfl⟩ := Option.map_eq_some_iff.mp hmethod
  obtain ⟨other, hother, hresolved⟩ := hreach.resolved_entry hentry
  obtain rfl := Option.some.inj (hrepository.symm.trans hother)
  cases found with
  | none =>
      have hskipped := hresolved.statement_eq_none_iff.mp rfl
      exact absurd (Method.kind_eq_skipped_iff.mpr hskipped) hskip
  | some statement => exact ⟨statement, hentry, hresolved⟩

theorem derived_entry (hreach : registry.Reachable)
    (hrepository : registry.repository? ref.repository = some repository)
    (hmethod : registry.method? ref = some method) (hkind : method.kind = .derived) :
    ∃ name condition, MethodName.parse method.name = .ok (some name) ∧
      registry.entry? ref = some ⟨method, some
        (.ofCondition registry.config repository.entity method name.verb condition)⟩ := by
  obtain ⟨statement, hentry, hresolved⟩ :=
    hreach.exists_statement hrepository hmethod (by simp [hkind])
  rcases hresolved.statement_cases rfl with ⟨_, _, htemplate, _⟩ |
    ⟨name, condition, _, hparse, _, hstatement⟩
  · rw [hkind] at htemplate
    cases htemplate
  · rw [hstatement] at hentry
    exact ⟨name, condition, hparse, hentry⟩

theorem template_entry (hreach : registry.Reachable)
    (hrepository : registry.repository? ref.repository = some repository)
    (hmethod : registry.method? ref = some method) {sql : String}
    (hkind : method.kind = .template sql) :
    ∃ bound, BoundTemplate.ofTemplate sql method.params repository.entity
        registry.config.dialect = .ok bound ∧
      registry.entry? ref = some ⟨method, some (.ofBound repository.entity method bound)⟩ := by
  obtain ⟨statement, hentry, hresolved⟩ :=
    hreach.exists_statement hrepository hmethod (by simp [hkind])
  rcases hresolved.statement_cases rfl with ⟨other, bound, htemplate, hbound, _, hstatement⟩ |
    ⟨_, _, hderived, _⟩
  · rw [hkind] at htemplate
    cases htemplate
    rw [hstatement] at hentry
    exact ⟨bound, hbound, hentry⟩
  · rw [hkind] at hderived
    cases hderived

end Registry.Reachable

/-! ### Prepared calls -/

namespace Registry

theorem prepare_eq_ok {registry : Registry} {ref : MethodRef} {args : List Value}
    {sent : Statement} {binds : List Bind} (h : registry.prepare ref args = .ok (sent, binds)) :
    ∃ method statement values, registry.entry? ref = some ⟨method, some statement⟩ ∧
      method.checkArguments args = .ok values ∧
      sent = statement.forValues registry.config.dialect values ∧
      List.Forall₂ (SlotValue method.params values) sent.binds binds := by
  unfold prepare at h
  split at h
  case h_2 => cases h
  case h_1 method statement hentry =>
    cases hvalues : method.checkArguments args with
    | error fault => rw [hvalues] at h; cases h
    | ok values =>
        simp only [hvalues] at h
        cases hbinds : (statement.forValues registry.config.dialect values).bindValues
            method.params values with
        | error fault => rw [hbinds] at h; cases h
        | ok found =>
            rw [hbinds] at h
            obtain ⟨rfl, rfl⟩ := Prod.mk.inj (Except.ok.inj h)
            exact ⟨method, statement, values, hentry, hvalues, rfl,
              Statement.bindValues_eq_ok_iff.mp hbinds⟩

theorem not_refuses_of_prepare {registry : Registry} (hreach : registry.Reachable)
    {ref : MethodRef} {args : List Value} {sent : Statement} {binds : List Bind}
    (h : registry.prepare ref args = .ok (sent, binds)) : ¬ registry.Refuses ref args := by
  obtain ⟨method, statement, values, hentry, hvalues, _, _⟩ := prepare_eq_ok h
  obtain ⟨repository, _, hresolved⟩ := hreach.resolved_entry hentry
  have hmethod : registry.method? ref = some method := by rw [method?, hentry]; rfl
  rintro (hnone | ⟨other, hother, hskip | ⟨fault, hfault⟩⟩)
  · rw [hmethod] at hnone
    cases hnone
  · rw [Option.some.inj (hother.symm.trans hmethod)] at hskip
    cases hresolved.statement_eq_none_iff.mpr hskip
  · rw [Option.some.inj (hother.symm.trans hmethod), hvalues] at hfault
    cases hfault

/-- Every call that is not refused is prepared. -/
theorem exists_prepare {registry : Registry} (hreach : registry.Reachable) {ref : MethodRef}
    {method : Method} {statement : Statement} {args values : List Value}
    (hentry : registry.entry? ref = some ⟨method, some statement⟩)
    (hvalues : method.checkArguments args = .ok values) :
    ∃ binds, registry.prepare ref args =
        .ok (statement.forValues registry.config.dialect values, binds) ∧
      List.Forall₂ (SlotValue method.params values)
        (statement.forValues registry.config.dialect values).binds binds := by
  obtain ⟨repository, _, hresolved⟩ := hreach.resolved_entry hentry
  obtain ⟨binds, hbinds⟩ := Statement.exists_bindValues (Method.length_checkArguments hvalues)
    fun index hmem => hresolved.lt_length_of_mem_binds rfl values hmem
  refine ⟨binds, ?_, Statement.bindValues_eq_ok_iff.mp hbinds⟩
  unfold prepare
  simp only [hentry, hvalues, hbinds]

/-- A call that is not prepared names no method that can be called, or the method does not take the
arguments. -/
theorem prepare_eq_error {registry : Registry} (hreach : registry.Reachable) {ref : MethodRef}
    {args : List Value} {error : Error} (h : registry.prepare ref args = .error error) :
    (error = .unknownMethod ref ∧
      ∀ method, registry.method? ref = some method → method.skip = true) ∨
    ∃ method fault, registry.method? ref = some method ∧
      method.checkArguments args = .error fault ∧ error = .binding ref fault := by
  cases hentry : registry.entry? ref with
  | none =>
      have hmethod : registry.method? ref = none := by rw [method?, hentry]; rfl
      unfold prepare at h
      rw [hentry] at h
      exact .inl ⟨(Except.error.inj h).symm, by simp [hmethod]⟩
  | some entry =>
      obtain ⟨method, found⟩ := entry
      have hmethod : registry.method? ref = some method := by rw [method?, hentry]; rfl
      obtain ⟨repository, _, hresolved⟩ := hreach.resolved_entry hentry
      cases found with
      | none =>
          have hskip : method.skip = true := hresolved.statement_eq_none_iff.mp rfl
          unfold prepare at h
          rw [hentry] at h
          refine .inl ⟨(Except.error.inj h).symm, fun other hother => ?_⟩
          rw [← Option.some.inj (hmethod.symm.trans hother), hskip]
      | some statement =>
          cases hvalues : method.checkArguments args with
          | error fault =>
              unfold prepare at h
              simp only [hentry, hvalues] at h
              exact .inr ⟨method, fault, hmethod, hvalues, (Except.error.inj h).symm⟩
          | ok values =>
              obtain ⟨binds, hprepare, _⟩ := exists_prepare hreach hentry hvalues
              rw [hprepare] at h
              cases h

/-- A call that is not prepared is refused, and not for what happened in a session. -/
theorem refuses_of_prepare_error {registry : Registry} (hreach : registry.Reachable)
    {ref : MethodRef} {args : List Value} {error : Error}
    (h : registry.prepare ref args = .error error) :
    registry.Refuses ref args ∧ error.isExecution = false := by
  rcases prepare_eq_error hreach h with ⟨rfl, hskip⟩ | ⟨method, fault, hmethod, hfault, rfl⟩
  · refine ⟨?_, rfl⟩
    cases hmethod : registry.method? ref with
    | none => exact .inl hmethod
    | some method => exact .inr ⟨method, hmethod, .inl (hskip method hmethod)⟩
  · exact ⟨.inr ⟨method, hmethod, .inr ⟨fault, hfault⟩⟩, rfl⟩

theorem events_of_prepare {registry : Registry} {ref : MethodRef} {args : List Value}
    {sent : Statement} {binds : List Bind} (h : registry.prepare ref args = .ok (sent, binds))
    {database : Database} (hopen : database.openFault = none) :
    (registry.invoke database ref args).events[1]? = some (sent.event binds) := by
  unfold invoke
  simp only [h]
  unfold Statement.run
  simp only [hopen]
  split
  · rfl
  · rfl
  · rfl
  · split <;> rfl

end Registry

end QueryMethods
