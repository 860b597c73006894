import QueryMethods.Session.Run

/-!
# The session that a call holds

A call holds its session in a scope. A statement needs a session that is still held, releasing takes
the session away, and a scope that is left with its session drops it. A call releases only after its
statement, so that the statement never finds the session gone, and what the call does is what the
statement does in a session of its own.
-/

namespace QueryMethods

/-- The session of a call; there is none once it is released. -/
structure Scope where
  session : Option Database

/-- What is tried when a session is released, how it fails, and the scope that is left. -/
structure Release where
  events : List SessionEvent
  error : Option SessionError
  scope : Scope

namespace Scope

def opened (database : Database) : Scope :=
  ⟨some database⟩

def perform (scope : Scope) (statement : Statement) (binds : List Bind) :
    List SessionEvent × Reply SessionCause Output :=
  match scope.session with
  | none => ([], .failed .released)
  | some database => ([statement.event binds], statement.perform database binds)

def release (scope : Scope) (policy : CommitPolicy) : Release :=
  match scope.session, policy with
  | none, _ => ⟨[], none, ⟨none⟩⟩
  | some database, .commit =>
      ⟨[.commit], database.commitFault.map fun text => ⟨.committing, .driver text⟩, ⟨none⟩⟩
  | some database, .discard =>
      ⟨[.rollback], database.rollbackFault.map fun text => ⟨.rollingBack, .driver text⟩, ⟨none⟩⟩

/-- What happens when the scope is left. -/
def leave (scope : Scope) (ref : MethodRef) : List SessionEvent × List Notice :=
  match scope.session with
  | none => ([], [])
  | some _ => ([.drop], [.abandoned ref])

/-- Runs a statement and releases the session, on every way out. -/
def run (scope : Scope) (statement : Statement) (ref : MethodRef) (binds : List Bind) : Run :=
  let (sent, reply) := scope.perform statement binds
  let left (release : Release) := release.scope.leave ref
  match reply with
  | .pending =>
      let (dropped, noticed) := scope.leave ref
      ⟨.cancelled, sent ++ dropped, noticed⟩
  | .failed cause =>
      let released := scope.release .discard
      let (dropped, noticed) := left released
      ⟨.finished (.error (.execution ref ⟨.running, cause⟩)), sent ++ released.events ++ dropped,
        (released.error.map Notice.rollbackFailed).toList ++ noticed⟩
  | .done output =>
      let released := scope.release statement.policy
      let (dropped, noticed) := left released
      let events := sent ++ released.events ++ dropped
      match released.error, statement.policy with
      | none, _ => ⟨.finished (.ok output), events, noticed⟩
      | some error, .discard => ⟨.finished (.ok output), events, .unreleased error :: noticed⟩
      | some error, .commit => ⟨.finished (.error (.execution ref error)), events, noticed⟩

end Scope

def Statement.runScoped (statement : Statement) (database : Database) (ref : MethodRef)
    (binds : List Bind) : Run :=
  let started := Notice.executing statement.shape statement.policy statement.sql
  match database.openFault with
  | some text =>
      ⟨.finished (.error (.execution ref ⟨.opening, .driver text⟩)), [.opening], [started]⟩
  | none =>
      let run := (Scope.opened database).run statement ref binds
      ⟨run.outcome, .opening :: run.events, started :: run.notices⟩

/-- Keeping the session in a scope changes nothing that a call does. -/
theorem Statement.runScoped_eq_run (statement : Statement) (database : Database) (ref : MethodRef)
    (binds : List Bind) :
    statement.runScoped database ref binds = statement.run database ref binds := by
  unfold runScoped run Scope.run
  cases hopen : database.openFault with
  | some text => rfl
  | none =>
      cases hperform : statement.perform database binds with
      | pending => simp [Scope.opened, Scope.perform, Scope.leave, hperform]
      | failed cause =>
          cases hrollback : database.rollbackFault <;>
            simp [Scope.opened, Scope.perform, Scope.release, Scope.leave, hperform, hrollback]
      | done output =>
          cases statement.policy with
          | discard =>
              cases hrollback : database.rollbackFault <;>
                simp [Scope.opened, Scope.perform, Scope.release, Scope.leave, hperform, hrollback]
          | commit =>
              cases hcommit : database.commitFault <;>
                simp [Scope.opened, Scope.perform, Scope.release, Scope.leave, hperform, hcommit]

theorem Statement.shape_of_perform_done {statement : Statement} {database : Database}
    {binds : List Bind} {output : Output} (h : statement.perform database binds = .done output) :
    output.shape = statement.shape := by
  unfold perform at h
  split at h
  · split at h <;> simp only [Reply.done.injEq, reduceCtorEq] at h
    rw [← h]
    cases statement.shape <;> rfl
  · split at h
    · split at h <;> simp only [Reply.done.injEq, reduceCtorEq] at h
      case h_1 hshape => rw [← h, hshape]; rfl
    · cases h
    · cases h

theorem Statement.cause_of_perform_failed {statement : Statement} {database : Database}
    {binds : List Bind} {cause : SessionCause}
    (h : statement.perform database binds = .failed cause) :
    (∃ text, cause = .driver text) ∨
      (cause = .rowless statement.shape ∧ statement.returnsRows = false ∧
        statement.shape ≠ .scalar) := by
  unfold perform at h
  split at h
  · split at h <;> simp only [Reply.failed.injEq, reduceCtorEq] at h
    exact .inl ⟨_, h.symm⟩
  case isFalse hrows =>
    split at h
    · split at h <;> simp only [Reply.failed.injEq, reduceCtorEq] at h
      case h_2 hshape => exact .inr ⟨h.symm, Bool.eq_false_iff.mpr hrows, hshape⟩
    · simp only [Reply.failed.injEq] at h
      exact .inl ⟨_, h.symm⟩
    · cases h

/-- A statement finds its session gone exactly when the scope has none. -/
theorem Scope.perform_eq_released_iff {scope : Scope} {statement : Statement} {binds : List Bind} :
    (scope.perform statement binds).2 = .failed .released ↔ scope.session = none := by
  unfold perform
  cases scope.session with
  | none => simp
  | some database =>
      simp only [reduceCtorEq, iff_false]
      intro hfailed
      rcases Statement.cause_of_perform_failed hfailed with ⟨text, hcause⟩ | ⟨hcause, _⟩ <;>
        cases hcause

end QueryMethods
