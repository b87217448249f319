import LogCourier.Text.Quoted

/-! # Tasks that came to nothing -/

namespace LogCourier

/-- Why a task has no result. Tasks are told apart by labels. -/
inductive TaskFailure
  | cancelled (task : String)
  | panicked (task message : String)
deriving DecidableEq, Repr

def TaskFailure.message : TaskFailure → String
  | .cancelled task => "task " ++ task ++ " was cancelled"
  | .panicked task message => "task " ++ task ++ " panicked with message " ++ Text.quoted message

end LogCourier
