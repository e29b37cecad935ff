import ExampleBuild.Command

namespace ExampleBuild

/-! Builds run in the examples directory, so a compiler that is given by a relative path
has to be found from the directory in which the program was started. -/

/-- The path of a compiler as builds use it. A bare name stays as it is, to be looked up
in the search path. Any other path is followed to what it leads to, or where it leads
nowhere, made absolute as text. -/
def anchoredCompiler (canonical : Path → Except SystemError Path)
    (currentDirectory : Except SystemError Path) (compiler : String) : String :=
  match compilerDirectory? compiler with
  | none => compiler
  | some _ =>
      let path : Path := utf8 compiler
      match canonical path, currentDirectory with
      | .ok found, _ => found.shown
      | .error _, .ok current => (Path.absolute current path).shown
      | .error _, .error _ =>
          if path.isAbsolute then (Path.absolute [] path).shown else compiler

end ExampleBuild
