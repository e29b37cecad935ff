namespace ExampleBuild

/-! Why the operating system refused a request. -/

inductive SystemError
  | notFound
  | badExecutable
  | permissionDenied
  | notADirectory
  | isADirectory
  | nameTooLong
  | linkLoop
  | nulInPath
  | nulInCommand
  | other (text : String)
  deriving DecidableEq

namespace SystemError

def message : SystemError → String
  | .notFound => "No such file or directory (os error 2)"
  | .badExecutable => "Exec format error (os error 8)"
  | .permissionDenied => "Permission denied (os error 13)"
  | .notADirectory => "Not a directory (os error 20)"
  | .isADirectory => "Is a directory (os error 21)"
  | .nameTooLong => "File name too long (os error 36)"
  | .linkLoop => "Too many levels of symbolic links (os error 40)"
  | .nulInPath => "file name contained an unexpected NUL byte"
  | .nulInCommand => "nul byte found in provided data"
  | .other text => text

end SystemError

end ExampleBuild
