import ExampleBuild.Config
import ExampleBuild.Environment
import ExampleBuild.RunError
import ExampleBuild.SearchPath

namespace ExampleBuild

/-! Commands are plain data: the program, the arguments and the environment of a
process that has not been started. Without an environment of its own a command gets
the environment of the run. -/

structure Command where
  program : String
  arguments : List String
  environment : Option Environment

/-! ## The directory of the compiler -/

/-- The directory that a compiler is given with. A bare name is given with none. -/
def compilerDirectory? (compiler : String) : Option Path :=
  (Path.parent? (utf8 compiler)).filter fun directory => directory ≠ []

def searchPathName : String := "PATH"

def upperCaseByte (byte : UInt8) : UInt8 :=
  if 97 ≤ byte && byte ≤ 122 then byte - 32 else byte

/-- The name under which an environment keeps its search path. On Windows the case of
letters in a name does not matter, so a name that is there already is taken as spelled. -/
def searchPathNameIn (platform : Platform) (environment : Environment) : ByteText :=
  if platform.isWindowsFamily then
    (environment.names.find? fun name =>
      name.map upperCaseByte = utf8 searchPathName).getD (utf8 searchPathName)
  else utf8 searchPathName

/-- The environment in which a project is made: the directory of the compiler is the
first one of the search path, and all else is as it was. -/
def projectEnvironment (compiler : String) (platform : Platform) (base : Environment) :
    Except RunError Environment :=
  match compilerDirectory? compiler with
  | none => .ok base
  | some directory =>
      let name := searchPathNameIn platform base
      let others := match base.get? name with
        | none | some [] => []
        | some value => SearchPath.directories value
      match SearchPath.ofDirectories? (directory :: others) with
      | none => .error (.unwritableSearchPath directory)
      | some value => .ok (base.insert name value)

namespace Command

def outputOption : String := "-o"

def warningsAsErrors : String := "-Werror"

def makeProgram : String := "make"

def makeDirectoryOption : String := "-C"

def flagsVariable : String := "CXFLAGS"

def flagsAssignment (extraArguments : List String) : String :=
  flagsVariable ++ "=" ++ " ".intercalate extraArguments

def compile (config : Config) (source artifact : String) : Command where
  program := config.compiler
  arguments := [source, outputOption, artifact, warningsAsErrors] ++ config.extraArguments
  environment := none

def make (config : Config) (project : String) (base : Environment) :
    Except RunError Command :=
  match projectEnvironment config.compiler config.platform base with
  | .error error => .error error
  | .ok environment => .ok {
      program := makeProgram
      arguments := [makeDirectoryOption, project, flagsAssignment config.extraArguments]
      environment := some environment }

end Command

end ExampleBuild
