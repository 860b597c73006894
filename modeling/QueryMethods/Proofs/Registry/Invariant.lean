import QueryMethods.Proofs.Registry.Prepared
import QueryMethods.Proofs.Session.Scope

/-!
# What a registry keeps, and the faults that it rules out

Whatever was registered, an entry agrees with its method: with its source, shape, parameters and
marks. A statement that is written anew for `NULL` arguments agrees with the method too. The code
still guards against slots without parameters, against rowless statements where rows are declared,
and against sessions that are gone; no call of a registered method runs into one of these guards.
-/

namespace QueryMethods

/-- The statement agrees with the method that it belongs to. -/
structure Statement.Fits (statement : Statement) (method : Method) : Prop where
  template_iff : (∃ bound, statement.source = .template bound) ↔ method.template.isSome = true
  derived_iff : (∃ condition, statement.source = .derived condition) ↔ method.template = none
  shape_eq : statement.shape = method.shape
  binds_lt : ∀ index ∈ statement.binds, index < method.params.length
  commit_iff : statement.policy = .commit ↔
    method.template.isSome = true ∧ method.modifying = true
  scalar_of_rowless : statement.returnsRows = false → statement.shape = .scalar
  of_derived : ∀ condition, statement.source = .derived condition →
    statement.returnsRows = true ∧ statement.policy = .discard

structure Entry.Consistent (entry : Entry) : Prop where
  skipped_iff : entry.statement = none ↔ entry.method.skip = true
  fits : ∀ statement, entry.statement = some statement → statement.Fits entry.method

theorem Entry.Resolved.fits {config : Config} {repository : String} {entity : Entity}
    {key : String} {entry : Entry} (h : entry.Resolved config repository entity key)
    {statement : Statement} (hstatement : entry.statement = some statement) :
    statement.Fits entry.method := by
  have hlt : ∀ index ∈ (statement.forValues config.dialect []).binds,
      index < entry.method.params.length := fun index => h.lt_length_of_mem_binds hstatement []
  have hsame : statement.forValues config.dialect [] = statement := by
    unfold Statement.forValues
    split <;> rfl
  rw [hsame] at hlt
  have hcommit := h.policy_eq_commit_iff hstatement
  have hscalar := h.shape_of_no_rows hstatement
  rcases h.statement_cases hstatement with ⟨sql, bound, hkind, _, _, rfl⟩ |
    ⟨name, condition, hkind, _, _, rfl⟩
  · have htemplate := Method.template_of_kind_eq_template hkind
    constructor
    case binds_lt => exact hlt
    case commit_iff => simpa [Method.Persists, hkind, htemplate] using hcommit
    case scalar_of_rowless => exact hscalar
    all_goals simp [Statement.ofBound, htemplate]
  · have htemplate := Method.template_of_kind_eq_derived hkind
    constructor
    case binds_lt => exact hlt
    case commit_iff => simpa [Method.Persists, hkind, htemplate] using hcommit
    case scalar_of_rowless => exact hscalar
    all_goals simp [Statement.ofCondition, htemplate]

theorem Entry.Resolved.consistent {config : Config} {repository : String} {entity : Entity}
    {key : String} {entry : Entry} (h : entry.Resolved config repository entity key) :
    entry.Consistent where
  skipped_iff := h.statement_eq_none_iff
  fits := fun _ => h.fits

/-- A statement still fits its method when it is written anew for the values of a call. -/
theorem Entry.Resolved.fits_forValues {config : Config} {repository : String} {entity : Entity}
    {key : String} {entry : Entry} (h : entry.Resolved config repository entity key)
    {statement : Statement} (hstatement : entry.statement = some statement)
    (values : List Value) :
    (statement.forValues config.dialect values).Fits entry.method := by
  have hfits := h.fits hstatement
  have hlt : ∀ index ∈ (statement.forValues config.dialect values).binds,
      index < entry.method.params.length :=
    fun index => h.lt_length_of_mem_binds hstatement values
  obtain ⟨sql, binds, heq⟩ := statement.forValues_eq config.dialect values
  rw [heq] at hlt ⊢
  exact { hfits with binds_lt := hlt }

/-- What the guards of the code report. -/
def Error.isInternal : Error → Bool
  | .binding _ (.missingParam _) => true
  | .execution _ ⟨_, .rowless _⟩ => true
  | .execution _ ⟨_, .released⟩ => true
  | _ => false

namespace Statement

variable {statement : Statement} {method : Method} {database : Database} {ref : MethodRef}
  {binds : List Bind}

/-- A run is dropped with its statement, fails in the driver or with its statement, or gives back
what its statement gives. -/
theorem outcome_run_cases (statement : Statement) (database : Database) (ref : MethodRef)
    (binds : List Bind) :
    (statement.run database ref binds).outcome = .cancelled ∨
      (∃ stage cause, (statement.run database ref binds).outcome =
          .finished (.error (.execution ref ⟨stage, cause⟩)) ∧
        ((∃ text, cause = .driver text) ∨ statement.perform database binds = .failed cause)) ∨
      ∃ output, (statement.run database ref binds).outcome = .finished (.ok output) ∧
        statement.perform database binds = .done output := by
  unfold run
  cases hopen : database.openFault with
  | some text => exact .inr (.inl ⟨_, _, rfl, .inl ⟨text, rfl⟩⟩)
  | none =>
      cases hperform : statement.perform database binds with
      | pending => exact .inl rfl
      | failed cause => exact .inr (.inl ⟨_, _, rfl, .inr rfl⟩)
      | done output =>
          cases statement.policy with
          | discard => exact .inr (.inr ⟨output, rfl, rfl⟩)
          | commit =>
              cases database.commitFault with
              | none => exact .inr (.inr ⟨output, rfl, rfl⟩)
              | some text => exact .inr (.inl ⟨_, _, rfl, .inl ⟨text, rfl⟩⟩)

/-- A run that fails has failed in the driver or with its statement. -/
theorem exists_of_outcome_error {error : Error}
    (hrun : (statement.run database ref binds).outcome = .finished (.error error)) :
    ∃ stage cause, error = .execution ref ⟨stage, cause⟩ ∧
      ((∃ text, cause = .driver text) ∨ statement.perform database binds = .failed cause) := by
  rcases statement.outcome_run_cases database ref binds with
    hcancelled | ⟨stage, cause, herror, hcause⟩ | ⟨output, hok, -⟩
  · rw [hcancelled] at hrun
    cases hrun
  · rw [herror] at hrun
    exact ⟨stage, cause, (Except.error.inj (Outcome.finished.inj hrun)).symm, hcause⟩
  · rw [hok] at hrun
    cases Outcome.finished.inj hrun

theorem Fits.not_internal_of_run (h : statement.Fits method) {error : Error}
    (hrun : (statement.run database ref binds).outcome = .finished (.error error)) :
    error.isInternal = false := by
  obtain ⟨stage, cause, rfl, hcause⟩ := exists_of_outcome_error hrun
  rcases hcause with ⟨text, rfl⟩ | hperform
  · rfl
  · cases cause with
    | driver text => rfl
    | released =>
        -- The statement is performed in a scope that has just been opened.
        have hscope : ((Scope.opened database).perform statement binds).2 = .failed .released :=
          hperform
        cases Scope.perform_eq_released_iff.mp hscope
    | rowless shape =>
        rcases cause_of_perform_failed hperform with ⟨text, htext⟩ | ⟨-, hrows, hshape⟩
        · cases htext
        · exact absurd (h.scalar_of_rowless hrows) hshape

/-- Whatever goes wrong once a statement runs is an error of its execution. -/
theorem execution_of_run {error : Error}
    (hrun : (statement.run database ref binds).outcome = .finished (.error error)) :
    ∃ cause, error = .execution ref cause := by
  obtain ⟨stage, cause, herror, -⟩ := exists_of_outcome_error hrun
  exact ⟨_, herror⟩

theorem Fits.shape_of_run (h : statement.Fits method) {output : Output}
    (hrun : (statement.run database ref binds).outcome = .finished (.ok output)) :
    output.shape = method.shape := by
  rcases statement.outcome_run_cases database ref binds with
    hcancelled | ⟨stage, cause, herror, -⟩ | ⟨found, hok, hperform⟩
  · rw [hcancelled] at hrun
    cases hrun
  · rw [herror] at hrun
    cases Outcome.finished.inj hrun
  · rw [hok] at hrun
    obtain rfl := Except.ok.inj (Outcome.finished.inj hrun)
    rw [shape_of_perform_done hperform, h.shape_eq]

end Statement

namespace Registry

/-- Calls a method, and keeps its session in a scope. -/
def invokeScoped (registry : Registry) (database : Database) (ref : MethodRef)
    (args : List Value) : Run :=
  match registry.prepare ref args with
  | .error error => .failure error
  | .ok (statement, binds) => statement.runScoped database ref binds

theorem invokeScoped_eq_invoke (registry : Registry) (database : Database) (ref : MethodRef)
    (args : List Value) :
    registry.invokeScoped database ref args = registry.invoke database ref args := by
  unfold invokeScoped invoke
  cases registry.prepare ref args with
  | error error => rfl
  | ok prepared => exact Statement.runScoped_eq_run _ _ _ _

/-- What a call may send, fail with and give back. -/
structure GuardedCall (registry : Registry) (database : Database) (ref : MethodRef)
    (args : List Value) : Prop where
  sent_fits : ∀ sent binds, registry.prepare ref args = .ok (sent, binds) →
    ∃ method, registry.method? ref = some method ∧ sent.Fits method
  scoped_eq : registry.invokeScoped database ref args = registry.invoke database ref args
  not_internal : ∀ error,
    (registry.invoke database ref args).outcome = .finished (.error error) →
    error.isInternal = false
  shape_eq : ∀ output, (registry.invoke database ref args).outcome = .finished (.ok output) →
    ∃ method, registry.method? ref = some method ∧ output.shape = method.shape

theorem exists_fits_of_prepare {registry : Registry} (hreach : registry.Reachable)
    {ref : MethodRef} {args : List Value} {sent : Statement} {binds : List Bind}
    (h : registry.prepare ref args = .ok (sent, binds)) :
    ∃ method, registry.method? ref = some method ∧ sent.Fits method := by
  obtain ⟨method, statement, values, hentry, _, rfl, _⟩ := prepare_eq_ok h
  obtain ⟨repository, _, hresolved⟩ := hreach.resolved_entry hentry
  have hmethod : registry.method? ref = some method := by rw [method?, hentry]; rfl
  exact ⟨method, hmethod, hresolved.fits_forValues rfl values⟩

theorem guardedCall {registry : Registry} (hreach : registry.Reachable) (database : Database)
    (ref : MethodRef) (args : List Value) : registry.GuardedCall database ref args := by
  constructor
  case sent_fits => exact fun _ _ => exists_fits_of_prepare hreach
  case scoped_eq => exact invokeScoped_eq_invoke registry database ref args
  case not_internal =>
    intro error hrun
    unfold invoke at hrun
    cases hprepare : registry.prepare ref args with
    | error found =>
        simp only [hprepare, Run.failure, Outcome.finished.injEq, Except.error.injEq] at hrun
        rw [← hrun]
        rcases prepare_eq_error hreach hprepare with ⟨rfl, _⟩ | ⟨method, fault, _, hfault, rfl⟩
        · rfl
        · cases Method.checkArguments_eq_error_iff.mp hfault <;> rfl
    | ok prepared =>
        obtain ⟨sent, binds⟩ := prepared
        obtain ⟨method, _, hfits⟩ := exists_fits_of_prepare hreach hprepare
        rw [hprepare] at hrun
        exact hfits.not_internal_of_run hrun
  case shape_eq =>
    intro output hrun
    unfold invoke at hrun
    cases hprepare : registry.prepare ref args with
    | error found => simp [hprepare, Run.failure] at hrun
    | ok prepared =>
        obtain ⟨sent, binds⟩ := prepared
        obtain ⟨method, hmethod, hfits⟩ := exists_fits_of_prepare hreach hprepare
        rw [hprepare] at hrun
        exact ⟨method, hmethod, hfits.shape_of_run hrun⟩

/-- **Registry invariant.** Every entry of a registry that comes from registrations agrees with its
method, and no call runs into a guard, whatever its arguments and its database. -/
theorem keeps_invariant {registry : Registry} (hreach : registry.Reachable) :
    (∀ name repository, (name, repository) ∈ registry.repositories →
      ∀ key entry, (key, entry) ∈ repository.entries → entry.Consistent) ∧
    ∀ database ref args, registry.GuardedCall database ref args := by
  refine ⟨fun name repository hrepository key entry hentry => ?_, guardedCall hreach⟩
  have hresolved := hreach.resolved name repository hrepository key entry hentry
  exact hresolved.consistent

theorem keeps_invariant_accounts :
    Accounts.registry.Reachable ∧
      (∀ name repository, (name, repository) ∈ Accounts.registry.repositories →
        ∀ key entry, (key, entry) ∈ repository.entries → entry.Consistent) ∧
      ∀ database,
        Accounts.registry.GuardedCall database ⟨"accounts", "find_by_owner_or_id"⟩
          [.null, .int 7] :=
  have h := keeps_invariant Accounts.reachable_registry
  ⟨Accounts.reachable_registry, h.1, fun database => h.2 database _ _⟩

end Registry

end QueryMethods
