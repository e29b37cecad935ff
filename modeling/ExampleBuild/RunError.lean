import ExampleBuild.Path
import ExampleBuild.SystemError

namespace ExampleBuild

/-! What stops a run before or between builds. A build that fails is no such error: it
is what the run reports. -/

inductive RunError
  | unlistableDirectory (path : Path) (cause : SystemError)
  | unreadableEntry (path : Path) (cause : SystemError)
  | unwritableSearchPath (directory : Path)
  deriving DecidableEq

namespace RunError

def cause : RunError → String
  | .unlistableDirectory _ cause => cause.message
  | .unreadableEntry _ cause => cause.message
  | .unwritableSearchPath _ => "path segment contains separator `:`"

def situation : RunError → String
  | .unlistableDirectory path _ => "failed to read directory " ++ path.shown
  | .unreadableEntry path _ => "failed to read entry in " ++ path.shown
  | .unwritableSearchPath directory => "cannot prepend " ++ directory.shown ++ " to PATH"

def message (error : RunError) : String := error.situation ++ ": " ++ error.cause

end RunError

end ExampleBuild
