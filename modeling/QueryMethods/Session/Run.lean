import QueryMethods.Error
import QueryMethods.Notice
import QueryMethods.Output
import QueryMethods.Session.Database

/-!
# One call, one session

A call opens one session, runs one statement and releases the session on every way out: it commits
after a successful statement whose policy says so, and rolls back otherwise.
-/

namespace QueryMethods

/-- What a session does, in order. Opening and releasing are recorded when they are tried. -/
inductive SessionEvent where
  | opening
  | fetch (sql : String) (binds : List Bind)
  | execute (sql : String) (binds : List Bind)
  | commit
  | rollback
  /-- The session is given up without either. -/
  | drop
deriving DecidableEq

/-- The end of a call; a call that is dropped before its statement completes has no result. -/
inductive Outcome where
  | finished (result : Except Error Output)
  | cancelled

structure Run where
  outcome : Outcome
  events : List SessionEvent := []
  notices : List Notice := []

namespace Run

def failure (error : Error) : Run :=
  { outcome := .finished (.error error) }

end Run

/-- The number of affected rows as a value; one too large becomes the largest integer. -/
def affectedValue (count : UInt64) : Value :=
  .int (if count.toNat ≤ Int64.maxValue.toInt.toNat then count.toInt64 else Int64.maxValue)

/-- Rows, cut to the declared shape. -/
def Output.ofRows (rows : List Row) : Shape → Output
  | .optional => .optional rows.head?
  | .list => .list rows
  | .scalar => .scalar ((rows.head?.map Row.firstValue).getD .null)

namespace Statement

def event (statement : Statement) (binds : List Bind) : SessionEvent :=
  if statement.returnsRows then
    .fetch statement.sql binds
  else
    .execute statement.sql binds

/-- Runs a statement; one without rows gives a number, and only where a scalar is declared. -/
def perform (statement : Statement) (database : Database) (binds : List Bind) :
    Reply SessionCause Output :=
  if statement.returnsRows then
    match database.fetch statement.sql binds with
    | .done rows => .done (.ofRows rows statement.shape)
    | .failed text => .failed (.driver text)
    | .pending => .pending
  else
    match database.execute statement.sql binds with
    | .done count =>
        match statement.shape with
        | .scalar => .done (.scalar (affectedValue count))
        | shape => .failed (.rowless shape)
    | .failed text => .failed (.driver text)
    | .pending => .pending

/-- Runs a statement in a session of its own. A rollback that fails is only noticed. -/
def run (statement : Statement) (database : Database) (ref : MethodRef) (binds : List Bind) : Run :=
  let started := Notice.executing statement.shape statement.policy statement.sql
  let failed (stage : SessionStage) (cause : SessionCause) : Outcome :=
    .finished (.error (.execution ref ⟨stage, cause⟩))
  let rollbackError := database.rollbackFault.map fun text =>
    SessionError.mk .rollingBack (.driver text)
  let ran := [.opening, statement.event binds]
  match database.openFault with
  | some text => ⟨failed .opening (.driver text), [.opening], [started]⟩
  | none =>
      match statement.perform database binds, statement.policy with
      | .pending, _ => ⟨.cancelled, ran ++ [.drop], [started, .abandoned ref]⟩
      | .failed cause, _ =>
          ⟨failed .running cause, ran ++ [.rollback],
            started :: (rollbackError.map Notice.rollbackFailed).toList⟩
      | .done output, .discard =>
          ⟨.finished (.ok output), ran ++ [.rollback],
            started :: (rollbackError.map Notice.unreleased).toList⟩
      | .done output, .commit =>
          match database.commitFault with
          | some text => ⟨failed .committing (.driver text), ran ++ [.commit], [started]⟩
          | none => ⟨.finished (.ok output), ran ++ [.commit], [started]⟩

end Statement

end QueryMethods
