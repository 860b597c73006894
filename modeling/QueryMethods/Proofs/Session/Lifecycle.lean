import QueryMethods.Proofs.Registry.Prepared

/-!
# The life of a session

Every call of a registered method opens at most one session, runs one statement in it and releases
it once. `Call.Ends` lists the ways in which a call can end; what a caller may rely on is read off
them. In a run of many calls no two of them share a session.
-/

namespace QueryMethods

structure Call where
  ref : MethodRef
  args : List Value
  database : Database

def Call.run (call : Call) (registry : Registry) : Run :=
  registry.invoke call.database call.ref call.args

/-- What a successful statement of the call does is to be kept. -/
def Call.Persists (call : Call) (registry : Registry) : Prop :=
  ∃ method, registry.method? call.ref = some method ∧ method.Persists

/-- A reply, less its rows or its count. -/
def Reply.ended {ε α : Type} : Reply ε α → Reply ε Unit
  | .done _ => .done ()
  | .failed cause => .failed cause
  | .pending => .pending

/-- How the database answers the statement of an event; other events hold none. -/
def Database.answer? (database : Database) : SessionEvent → Option (Reply String Unit)
  | .fetch sql binds => some (database.fetch sql binds).ended
  | .execute sql binds => some (database.execute sql binds).ended
  | _ => none

def SessionEvent.isRelease : SessionEvent → Bool
  | .commit | .rollback | .drop => true
  | _ => false

/-- The ways in which a call can end. -/
inductive Call.Ends (call : Call) (registry : Registry) (run : Run) : Prop where
  | refused (error : Error)
      (hrefused : registry.Refuses call.ref call.args)
      (hevents : run.events = [])
      (houtcome : run.outcome = .finished (.error error))
      (hexecution : error.isExecution = false)
  | unopened (text : String)
      (haccepted : ¬ registry.Refuses call.ref call.args)
      (hopen : call.database.openFault = some text)
      (hevents : run.events = [.opening])
      (houtcome : run.outcome =
        .finished (.error (.execution call.ref ⟨.opening, .driver text⟩)))
  | cancelled (sent : SessionEvent)
      (haccepted : ¬ registry.Refuses call.ref call.args)
      (hopen : call.database.openFault = none)
      (hanswer : call.database.answer? sent = some .pending)
      (hevents : run.events = [.opening, sent, .drop])
      (houtcome : run.outcome = .cancelled)
  | failed (sent : SessionEvent) (text : String)
      (haccepted : ¬ registry.Refuses call.ref call.args)
      (hopen : call.database.openFault = none)
      (hanswer : call.database.answer? sent = some (.failed text))
      (hevents : run.events = [.opening, sent, .rollback])
      (houtcome : run.outcome =
        .finished (.error (.execution call.ref ⟨.running, .driver text⟩)))
  | discarded (sent : SessionEvent) (output : Output)
      (haccepted : ¬ registry.Refuses call.ref call.args)
      (hopen : call.database.openFault = none)
      (hanswer : call.database.answer? sent = some (.done ()))
      (hpersists : ¬ call.Persists registry)
      (hevents : run.events = [.opening, sent, .rollback])
      (houtcome : run.outcome = .finished (.ok output))
  | committed (sent : SessionEvent) (output : Output)
      (haccepted : ¬ registry.Refuses call.ref call.args)
      (hopen : call.database.openFault = none)
      (hanswer : call.database.answer? sent = some (.done ()))
      (hpersists : call.Persists registry)
      (hcommit : call.database.commitFault = none)
      (hevents : run.events = [.opening, sent, .commit])
      (houtcome : run.outcome = .finished (.ok output))
  | uncommitted (sent : SessionEvent) (text : String)
      (haccepted : ¬ registry.Refuses call.ref call.args)
      (hopen : call.database.openFault = none)
      (hanswer : call.database.answer? sent = some (.done ()))
      (hpersists : call.Persists registry)
      (hcommit : call.database.commitFault = some text)
      (hevents : run.events = [.opening, sent, .commit])
      (houtcome : run.outcome =
        .finished (.error (.execution call.ref ⟨.committing, .driver text⟩)))

theorem Statement.perform_cases {statement : Statement} (database : Database) (binds : List Bind)
    (hshape : statement.returnsRows = false → statement.shape = .scalar) :
    (database.answer? (statement.event binds) = some .pending ∧
      statement.perform database binds = .pending) ∨
    (∃ text, database.answer? (statement.event binds) = some (.failed text) ∧
      statement.perform database binds = .failed (.driver text)) ∨
    (∃ output, database.answer? (statement.event binds) = some (.done ()) ∧
      statement.perform database binds = .done output) := by
  unfold perform event
  cases hrows : statement.returnsRows with
  | true =>
      simp only [if_true, Database.answer?]
      cases database.fetch statement.sql binds <;> simp [Reply.ended]
  | false =>
      simp only [hshape hrows, Database.answer?, Bool.false_eq_true, if_false]
      cases database.execute statement.sql binds <;> simp [Reply.ended]

theorem Call.ends {registry : Registry} (hreach : registry.Reachable) (call : Call) :
    call.Ends registry (call.run registry) := by
  unfold Call.run Registry.invoke
  cases hprepare : registry.prepare call.ref call.args with
  | error error =>
      obtain ⟨hrefused, hexecution⟩ := Registry.refuses_of_prepare_error hreach hprepare
      exact .refused error hrefused rfl rfl hexecution
  | ok prepared =>
      obtain ⟨sent, binds⟩ := prepared
      have haccepted := Registry.not_refuses_of_prepare hreach hprepare
      obtain ⟨method, statement, values, hentry, _, rfl, _⟩ := Registry.prepare_eq_ok hprepare
      obtain ⟨repository, _, hresolved⟩ := hreach.resolved_entry hentry
      have hpersists : statement.policy = .commit ↔ call.Persists registry := by
        have hmethod : registry.method? call.ref = some method := by
          rw [Registry.method?, hentry]
          rfl
        rw [hresolved.policy_eq_commit_iff rfl]
        simp [Call.Persists, hmethod]
      generalize hsent : statement.forValues registry.config.dialect values = sent
      have hpolicy : sent.policy = statement.policy := by
        rw [← hsent, Statement.policy_forValues]
      have hshape : sent.returnsRows = false → sent.shape = .scalar := by
        rw [← hsent, Statement.returnsRows_forValues, Statement.shape_forValues]
        exact hresolved.shape_of_no_rows rfl
      unfold Statement.run
      cases hopen : call.database.openFault with
      | some text => exact .unopened text haccepted hopen rfl rfl
      | none =>
          rcases Statement.perform_cases call.database binds hshape with
            ⟨hanswer, hperform⟩ | ⟨text, hanswer, hperform⟩ | ⟨output, hanswer, hperform⟩
          · simp only [hperform]
            exact .cancelled _ haccepted hopen hanswer rfl rfl
          · simp only [hperform]
            exact .failed _ text haccepted hopen hanswer rfl rfl
          · cases hkept : sent.policy with
            | discard =>
                simp only [hperform, hkept]
                have hdropped : ¬ call.Persists registry := by
                  rw [← hpersists, ← hpolicy, hkept]
                  simp
                exact .discarded _ output haccepted hopen hanswer hdropped rfl rfl
            | commit =>
                have hkeeps : call.Persists registry := by
                  rw [← hpersists, ← hpolicy, hkept]
                cases hcommit : call.database.commitFault with
                | none =>
                    simp only [hperform, hkept]
                    exact .committed _ output haccepted hopen hanswer hkeeps hcommit rfl rfl
                | some text =>
                    simp only [hperform, hkept]
                    exact .uncommitted _ text haccepted hopen hanswer hkeeps hcommit rfl rfl

/-- What a caller may rely on in one call. -/
structure Call.Lifecycle (call : Call) (registry : Registry) (run : Run) : Prop where
  forms : run.events = [] ∨ run.events = [.opening] ∨
    ∃ sent, (call.database.answer? sent).isSome = true ∧
      (run.events = [.opening, sent, .commit] ∨ run.events = [.opening, sent, .rollback] ∨
        run.events = [.opening, sent, .drop])
  silent_iff : run.events = [] ↔ registry.Refuses call.ref call.args
  unopened_iff : run.events = [.opening] ↔
    ¬ registry.Refuses call.ref call.args ∧ call.database.openFault.isSome = true
  dropped_iff : .drop ∈ run.events ↔ run.outcome = .cancelled
  cancelled_iff : run.outcome = .cancelled ↔
    ∃ sent ∈ run.events, call.database.answer? sent = some .pending
  commit_iff : .commit ∈ run.events ↔
    call.Persists registry ∧ ∃ sent ∈ run.events, call.database.answer? sent = some (.done ())
  rollback_once : .opening ∈ run.events → call.database.openFault = none →
    run.outcome ≠ .cancelled → .commit ∉ run.events → run.events.count .rollback = 1
  opening_fault : .opening ∈ run.events → ∀ text, call.database.openFault = some text →
    run.outcome = .finished (.error (.execution call.ref ⟨.opening, .driver text⟩))
  statement_fault : ∀ sent ∈ run.events, ∀ text,
    call.database.answer? sent = some (.failed text) →
    run.outcome = .finished (.error (.execution call.ref ⟨.running, .driver text⟩))
  commit_fault : .commit ∈ run.events → ∀ text, call.database.commitFault = some text →
    run.outcome = .finished (.error (.execution call.ref ⟨.committing, .driver text⟩))
  succeeds : ∀ sent ∈ run.events, call.database.answer? sent = some (.done ()) →
    (.commit ∈ run.events → call.database.commitFault = none) →
    ∃ output, run.outcome = .finished (.ok output)

theorem Call.Ends.lifecycle {call : Call} {registry : Registry} {run : Run}
    (h : call.Ends registry run) : call.Lifecycle registry run := by
  cases h with
  | refused error hrefused hevents houtcome hexecution =>
      constructor <;> simp [hrefused, hevents, houtcome]
  | unopened text haccepted hopen hevents houtcome =>
      constructor <;> simp [haccepted, hopen, hevents, houtcome, Database.answer?]
  | cancelled sent haccepted hopen hanswer hevents houtcome =>
      cases sent <;> simp only [Database.answer?, reduceCtorEq] at hanswer <;>
        constructor <;> simp_all [Database.answer?]
  | failed sent text haccepted hopen hanswer hevents houtcome =>
      cases sent <;> simp only [Database.answer?, reduceCtorEq] at hanswer <;>
        constructor <;> simp_all [Database.answer?]
  | discarded sent output haccepted hopen hanswer hpersists hevents houtcome =>
      cases sent <;> simp only [Database.answer?, reduceCtorEq] at hanswer <;>
        constructor <;> simp_all [Database.answer?]
  | committed sent output haccepted hopen hanswer hpersists hcommit hevents houtcome =>
      cases sent <;> simp only [Database.answer?, reduceCtorEq] at hanswer <;>
        constructor <;> simp_all [Database.answer?]
  | uncommitted sent text haccepted hopen hanswer hpersists hcommit hevents houtcome =>
      cases sent <;> simp only [Database.answer?, reduceCtorEq] at hanswer <;>
        constructor <;> simp_all [Database.answer?]

/-! ### Many calls

A journal lists the events of many calls. A session begins with its opening, and what comes before
the next opening is done in it, whichever call does it.
-/

/-- An event, the number of the call that caused it, and the number of its session. -/
structure JournalEntry where
  call : Nat
  session : Nat
  event : SessionEvent

def journalOf (call : Nat) : Nat → List SessionEvent → List JournalEntry
  | _, [] => []
  | opened, .opening :: rest => ⟨call, opened + 1, .opening⟩ :: journalOf call (opened + 1) rest
  | opened, event :: rest => ⟨call, opened, event⟩ :: journalOf call opened rest

/-- The entries of all calls, the first of which has the given number. -/
def journal : Nat → Nat → List (List SessionEvent) → List JournalEntry
  | _, _, [] => []
  | call, opened, events :: rest =>
      journalOf call opened events ++ journal (call + 1) (opened + events.count .opening) rest

/-- No session is used by two calls, used without an opening, or released twice. -/
structure SessionsApart (entries : List JournalEntry) : Prop where
  one_call : ∀ first ∈ entries, ∀ second ∈ entries, first.session = second.session →
    first.call = second.call
  opened : ∀ entry ∈ entries, ⟨entry.call, entry.session, .opening⟩ ∈ entries
  released_once : ∀ session,
    (entries.countP fun entry => entry.session == session && entry.event.isRelease) ≤ 1

/-- A call that stays within a session of its own, which it releases at most once. -/
def WithinSession (events : List SessionEvent) : Prop :=
  events = [] ∨ ∃ rest, events = .opening :: rest ∧ .opening ∉ rest ∧
    rest.countP SessionEvent.isRelease ≤ 1

theorem Call.Lifecycle.withinSession {call : Call} {registry : Registry} {run : Run}
    (h : call.Lifecycle registry run) : WithinSession run.events := by
  rcases h.forms with hevents | hevents | ⟨sent, hanswer, hevents⟩
  · exact .inl hevents
  · exact .inr ⟨[], hevents, List.not_mem_nil, Nat.zero_le 1⟩
  · rcases hevents with hevents | hevents | hevents <;>
      refine .inr ⟨_, hevents, ?_, ?_⟩ <;>
      cases sent <;> simp [SessionEvent.isRelease, Database.answer?] at hanswer ⊢

theorem journalOf_of_not_mem {call opened : Nat} {events : List SessionEvent}
    (h : .opening ∉ events) : journalOf call opened events = events.map (⟨call, opened, ·⟩) := by
  induction events with
  | nil => rfl
  | cons event rest ih =>
      rw [List.mem_cons, not_or] at h
      obtain ⟨hevent, hrest⟩ := h
      cases event with
      | opening => exact absurd rfl hevent
      | _ => simp only [journalOf, ih hrest, List.map_cons]

theorem journalOf_opening {call opened : Nat} {rest : List SessionEvent}
    (h : .opening ∉ rest) :
    journalOf call opened (.opening :: rest) =
      (SessionEvent.opening :: rest).map (⟨call, opened + 1, ·⟩) := by
  rw [journalOf, journalOf_of_not_mem h, List.map_cons]

theorem WithinSession.sessionsApart {events : List SessionEvent} (h : WithinSession events)
    (call opened : Nat) : SessionsApart (journalOf call opened events) := by
  rcases h with rfl | ⟨rest, rfl, hrest, hrelease⟩
  · exact ⟨fun _ hmem => absurd hmem List.not_mem_nil,
      fun _ hmem => absurd hmem List.not_mem_nil, fun _ => Nat.zero_le 1⟩
  · rw [journalOf_opening hrest]
    constructor
    case one_call => simp +contextual
    case opened => simp
    case released_once =>
      intro session
      rw [List.countP_map, List.countP_cons_of_neg (by simp [SessionEvent.isRelease])]
      refine Nat.le_trans (List.countP_mono_left fun event _ hevent => ?_) hrelease
      exact (Bool.and_eq_true_iff.mp hevent).2

theorem lt_session_of_mem_journalOf {events : List SessionEvent} (h : WithinSession events)
    {call opened : Nat} {entry : JournalEntry} (hmem : entry ∈ journalOf call opened events) :
    opened < entry.session ∧ entry.session ≤ opened + events.count .opening := by
  rcases h with rfl | ⟨rest, rfl, hrest, _⟩
  · cases hmem
  · rw [journalOf_opening hrest] at hmem
    obtain ⟨event, _, rfl⟩ := List.mem_map.mp hmem
    rw [List.count_cons_self, List.count_eq_zero.mpr hrest]
    exact ⟨Nat.lt_succ_self opened, Nat.le_refl _⟩

theorem lt_session_of_mem_journal {runs : List (List SessionEvent)}
    (h : ∀ events ∈ runs, WithinSession events) {call opened : Nat} {entry : JournalEntry}
    (hmem : entry ∈ journal call opened runs) : opened < entry.session := by
  induction runs generalizing call opened with
  | nil => cases hmem
  | cons events rest ih =>
      rcases List.mem_append.mp hmem with hfirst | hlater
      · exact (lt_session_of_mem_journalOf (h events (List.mem_cons_self ..)) hfirst).1
      · have hlt := ih (fun other hother => h other (List.mem_cons_of_mem _ hother)) hlater
        omega

theorem SessionsApart.append {first second : List JournalEntry} (hfirst : SessionsApart first)
    (hsecond : SessionsApart second)
    (hapart : ∀ left ∈ first, ∀ right ∈ second, left.session < right.session) :
    SessionsApart (first ++ second) where
  one_call := by
    intro left hleft right hright hsession
    rcases List.mem_append.mp hleft with hleft | hleft <;>
      rcases List.mem_append.mp hright with hright | hright
    · exact hfirst.one_call left hleft right hright hsession
    · exact absurd hsession (Nat.ne_of_lt (hapart left hleft right hright))
    · exact absurd hsession.symm (Nat.ne_of_lt (hapart right hright left hleft))
    · exact hsecond.one_call left hleft right hright hsession
  opened := by
    intro entry hmem
    rcases List.mem_append.mp hmem with hmem | hmem
    · exact List.mem_append_left second (hfirst.opened entry hmem)
    · exact List.mem_append_right first (hsecond.opened entry hmem)
  released_once := by
    intro session
    rw [List.countP_append]
    -- the session has entries on one side only
    by_cases hused : ∃ left ∈ first, left.session = session
    · obtain ⟨left, hleft, hsession⟩ := hused
      have hnone : (second.countP fun entry =>
          entry.session == session && entry.event.isRelease) = 0 := by
        rw [List.countP_eq_zero]
        intro right hright hcounted
        have hsame := beq_iff_eq.mp (Bool.and_eq_true_iff.mp hcounted).1
        have hlt := hapart left hleft right hright
        omega
      rw [hnone, Nat.add_zero]
      exact hfirst.released_once session
    · have hnone : (first.countP fun entry =>
          entry.session == session && entry.event.isRelease) = 0 := by
        rw [List.countP_eq_zero]
        intro left hleft hcounted
        exact hused ⟨left, hleft, beq_iff_eq.mp (Bool.and_eq_true_iff.mp hcounted).1⟩
      rw [hnone, Nat.zero_add]
      exact hsecond.released_once session

theorem sessionsApart_journal {runs : List (List SessionEvent)}
    (h : ∀ events ∈ runs, WithinSession events) (call opened : Nat) :
    SessionsApart (journal call opened runs) := by
  induction runs generalizing call opened with
  | nil => exact WithinSession.sessionsApart (.inl rfl) call opened
  | cons events rest ih =>
      have hevents := h events (List.mem_cons_self ..)
      have hrest : ∀ other ∈ rest, WithinSession other :=
        fun other hother => h other (List.mem_cons_of_mem _ hother)
      refine (hevents.sessionsApart call opened).append (ih hrest _ _) ?_
      intro left hleft right hright
      have hle := (lt_session_of_mem_journalOf hevents hleft).2
      have hlt := lt_session_of_mem_journal hrest hright
      omega

/-- **Session lifecycle.** In a registry that comes from registrations, each of many calls ends as
its policy and the database say, and no two calls share a session. -/
theorem session_lifecycle {registry : Registry} (hreach : registry.Reachable)
    (calls : List Call) :
    (∀ call ∈ calls, call.Lifecycle registry (call.run registry)) ∧
      SessionsApart (journal 0 0 (calls.map fun call => (call.run registry).events)) := by
  have hcalls : ∀ call ∈ calls, call.Lifecycle registry (call.run registry) :=
    fun call _ => (call.ends hreach).lifecycle
  refine ⟨hcalls, sessionsApart_journal ?_ 0 0⟩
  intro events hmem
  obtain ⟨call, hcall, rfl⟩ := List.mem_map.mp hmem
  exact (hcalls call hcall).withinSession

theorem session_lifecycle_accounts :
    Accounts.registry.Reachable ∧
      let deposit : Call := ⟨⟨"accounts", "deposit"⟩, [.int 5, .int 7],
        { ({} : Script).database with commitFault := some "gone" }⟩
      let find : Call := ⟨⟨"accounts", "find_by_owner_or_id"⟩, [.null, .int 7],
        { ({} : Script).database with rollbackFault := some "gone" }⟩
      (∀ call ∈ [deposit, find],
        call.Lifecycle Accounts.registry (call.run Accounts.registry)) ∧
        SessionsApart
          (journal 0 0 ([deposit, find].map fun call => (call.run Accounts.registry).events)) :=
  ⟨Accounts.reachable_registry, session_lifecycle Accounts.reachable_registry _⟩

end QueryMethods
