import QueryMethods.Shape

/-! What can go wrong in a session, and when. -/

namespace QueryMethods

inductive SessionStage where
  | opening
  | running
  | committing
  | rollingBack
deriving DecidableEq

/-- The driver's own words, a statement without rows where rows were promised, or a session that is
gone already. -/
inductive SessionCause where
  | driver (text : String)
  | rowless (shape : Shape)
  | released
deriving DecidableEq

def SessionCause.message : SessionCause → String
  | .driver text => text
  | .rowless shape => "statement produces no rows for a " ++ shape.name ++ " result"
  | .released => "session already released"

structure SessionError where
  stage : SessionStage
  cause : SessionCause
deriving DecidableEq

def SessionError.message (error : SessionError) : String :=
  let cause := error.cause.message
  match error.stage with
  | .opening => "failed to open session: " ++ cause
  | .running => "statement failed: " ++ cause
  | .committing => "failed to commit session: " ++ cause
  | .rollingBack => "failed to roll back session: " ++ cause

end QueryMethods
