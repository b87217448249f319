import LogCourier.FileSystem
import LogCourier.Text.Quoted

/-! # Watching a file

A watch is put on a path that exists; without one, its follower still looks at the file from time to
time.
-/

namespace LogCourier

inductive WatchError
  /-- The system has no watcher to give. -/
  | unavailable (cause : String)
  /-- The path cannot be watched. -/
  | refused (path cause : String)
deriving DecidableEq, Repr

namespace WatchError

def message : WatchError → String
  | .unavailable cause => "failed to create file watcher: " ++ cause
  | .refused path cause => "failed to watch " ++ path ++ ": " ++ cause

/-- What went wrong underneath. -/
def cause : WatchError → String
  | .unavailable cause | .refused _ cause => cause

end WatchError

/-- A watch on one path. -/
structure FileWatch where
  path : String
deriving DecidableEq, Repr

namespace FileWatch

private def reason (path : String) (e : SystemError) : String :=
  (if e = .notFound then "No path was found." else e.message) ++
    " about [" ++ Text.quoted path .path ++ "]"

def on (fs : FileSystem) (path : String) : Except WatchError FileWatch :=
  match fs.resolve path with
  | .ok _ => .ok { path }
  | .error e => .error (.refused path (reason path e))

/-- How a watch is shown in diagnostics. -/
def shown (_ : FileWatch) : String := "FileWatch \x7b .. \x7d"

end FileWatch

end LogCourier
