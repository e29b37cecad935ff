import ExampleBuild.Arguments.Emphasis
import ExampleBuild.Arguments.Option
import ExampleBuild.Text.Parts

namespace ExampleBuild

/-! Why arguments give no options to run with. Asking for help or for the version is
one of the reasons, though nothing is wrong then. -/

inductive ArgumentError
  | helpWanted
  | versionWanted
  | repeated (option : OwnOption)
  | missingValue (setting : Setting)
  | unexpectedValue (flag : Flag) (value : ByteText)
  | unknownFormat (value : ByteText)
  | unknownOption (name : ByteText)
  | illFormedText
  deriving DecidableEq

namespace ArgumentError

def purpose : String := "Build every cx example and stop at the first one that fails"

def programName : String := "build-examples"

def versionText : String := programName ++ " 0.1.0"

def text : ArgumentError → String
  | .helpWanted => purpose
  | .versionWanted => versionText
  | .repeated option =>
      Emphasis.alarm "error:" ++ " the argument '" ++ Emphasis.faulty option.usage
        ++ "' cannot be used multiple times"
  | .missingValue setting =>
      Emphasis.alarm "error:" ++ " a value is required for '"
        ++ Emphasis.faulty (OwnOption.setting setting).usage ++ "' but none was supplied"
  | .unexpectedValue flag value =>
      Emphasis.alarm "error:" ++ " unexpected value '" ++ Emphasis.faulty value.shown
        ++ "' for '" ++ Emphasis.literal (OwnOption.flag flag).usage
        ++ "' found; no more were expected"
  | .unknownFormat value =>
      Emphasis.alarm "error:" ++ " invalid value '" ++ Emphasis.faulty value.shown
        ++ "' for '" ++ Emphasis.literal (OwnOption.setting .output).usage ++ "'"
  | .unknownOption name =>
      Emphasis.alarm "error:" ++ " unexpected argument '" ++ Emphasis.faulty name.shown
        ++ "' found"
  | .illFormedText =>
      Emphasis.alarm "error:" ++ " invalid UTF-8 was detected in one or more arguments"

def line (emphasis : Bool) (error : ArgumentError) : String :=
  Parts.firstLine (Emphasis.shown emphasis error.text)

def message (error : ArgumentError) : String := error.line false

def isRequest : ArgumentError → Bool
  | .helpWanted | .versionWanted => true
  | _ => false

def exitCode (error : ArgumentError) : Nat := if error.isRequest then 0 else 2

end ArgumentError

end ExampleBuild
