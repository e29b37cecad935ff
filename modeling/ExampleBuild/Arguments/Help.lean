import ExampleBuild.Arguments.Error

namespace ExampleBuild

/-! The help that the program shows about itself. -/

namespace Help

open Emphasis

def descriptionColumn : Nat := 25

def description (text : String) : String :=
  Parts.hanging (String.ofList (List.replicate descriptionColumn ' ')) text

/-- The help with emphasis. The description of the compiler shows the value that the
environment gives it now. -/
def text (compilerInEnvironment : Option ByteText) : String :=
  "\n".intercalate
  [ArgumentError.purpose,
   "",
   heading "Usage:" ++ " " ++ literal ArgumentError.programName ++ " [OPTIONS] [CX_ARGS]...",
   "",
   heading "Arguments:",
   "  [CX_ARGS]...  Extra arguments forwarded to every build",
   "",
   heading "Options:",
   "      " ++ literal "--cx" ++ " <CX>          " ++ description
     ("Path to the cx compiler executable [env: CX="
       ++ ByteText.shown (compilerInEnvironment.getD []) ++ "] [default: cx]"),
   "  " ++ literal "-C" ++ ", " ++ literal "--dir"
     ++ " <DIR>        Examples directory (default: current directory)",
   "      " ++ literal "--dry-run"
     ++ "          Show how each entry would be built without building anything",
   "  " ++ literal "-o" ++ ", " ++ literal "--output"
     ++ " <OUTPUT>  Output format [default: text] [possible values: text, json]",
   "  " ++ literal "-v" ++ ", " ++ literal "--verbose" ++ "          Enable verbose output",
   "  " ++ literal "-h" ++ ", " ++ literal "--help" ++ "             Print help",
   "  " ++ literal "-V" ++ ", " ++ literal "--version" ++ "          Print version",
   "",
   "Options may appear anywhere on the command line. Every other argument is passed,",
   "in order, to every build: appended to the compiler command line for *.cx files",
   "and as CXFLAGS for project directories.",
   "",
   "To pass an argument that matches one of the options above (such as -o, -C or -v),",
   "put it after `--`:",
   "",
   "  build-examples --cx ./build/cx -O2 -- -v"]

def lines (emphasis : Bool) (compilerInEnvironment : Option ByteText) : List String :=
  Parts.lines (Emphasis.shown emphasis (text compilerInEnvironment))

end Help

end ExampleBuild
