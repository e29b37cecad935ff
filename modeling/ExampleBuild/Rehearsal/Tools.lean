import ExampleBuild.Rehearsal.Files
import ExampleBuild.Rehearsal.Shell

namespace ExampleBuild

/-! Tools that do what the files in front of them say. A source of the compiler says in
its lines how the compilation goes, and a project says in files how it is made. -/

namespace Rehearsal

structure ToolProcess where
  name : ByteText
  arguments : List ByteText
  environment : Environment
  here : Location

namespace ToolProcess

def callLine (process : ToolProcess) : ByteText :=
  process.name
    ++ (process.arguments.flatMap fun argument => utf8 " [" ++ argument ++ utf8 "]")
    ++ utf8 " cwd=" ++ process.here.path

def variableNote (process : ToolProcess) (name : String) : ByteText :=
  utf8 (" " ++ name ++ "=") ++ (process.environment.get? (utf8 name)).getD (utf8 "unset")

def makeCallLine (process : ToolProcess) : ByteText :=
  process.callLine ++ process.variableNote "PATH" ++ process.variableNote "MARK"

def valueAfter? (option : ByteText) : List ByteText → Option ByteText
  | [] => none
  | argument :: rest => if argument = option then rest.head? else valueAfter? option rest

end ToolProcess

namespace FileTree

def fileText? (tree : FileTree) (here : Location) (path : Path) : Option ByteText :=
  match tree.locate .followed here path with
  | .error _ => none
  | .ok location =>
      match tree.item? location with
      | some (.file (.text bytes) _) => some bytes
      | some (.file (.tool _) _) => some []
      | _ => none

end FileTree

/-! ## The compiler -/

namespace Compiler

def noSource : Nat := 4

def unwritableOutput : Nat := 2

def lines (text : ByteText) : List ByteText := text.separated 10

def mentions (source : List ByteText) (line : String) : Bool := source.contains (utf8 line)

/-- The number that a line gives after a word, as in `exit:3`. -/
def numberAfter? (word : String) (line : ByteText) : Option Nat :=
  if (utf8 word).isPrefixOf line then Shell.number? (line.drop (utf8 word).length) else none

def ending (source : List ByteText) : Ending :=
  if mentions source "warning" then .exited 1
  else
    match source.findSome? (numberAfter? "exit:"), source.findSome? (numberAfter? "signal:") with
    | some code, _ => Shell.exitWith code
    | none, some _ => .killed
    | none, none => .exited 0

def writeOutput (tree : FileTree) (process : ToolProcess) (source : List ByteText) :
    Except SystemError FileTree :=
  match ToolProcess.valueAfter? (utf8 "-o") process.arguments with
  | none => .ok tree
  | some output =>
      if mentions source "noout" then .ok tree
      else if mentions source "dirout" then .ok (tree.makeDirectory process.here output)
      else tree.write process.here output (.text [])

def run (tree : FileTree) (process : ToolProcess) : Ending × FileTree :=
  match process.arguments.head?.bind (tree.fileText? process.here) with
  | none => (.exited noSource, tree)
  | some text =>
      let source := lines text
      if mentions source "invalid" then (.exited 1, tree)
      else
        match writeOutput tree process source with
        | .error _ => (.exited unwritableOutput, tree)
        | .ok written => (ending source, written)

end Compiler

/-! ## Making a project -/

namespace Make

def run (tree : FileTree) (process : ToolProcess) : Ending :=
  let project := (ToolProcess.valueAfter? (utf8 "-C") process.arguments).getD []
  let file (name : String) := project ++ Path.slash :: utf8 name
  match tree.fileText? process.here (file "fail") with
  | some text =>
      let code := (Compiler.lines text).head?.bind Shell.number?
      Shell.exitWith (code.getD 2)
  | none =>
      match tree.locate .followed process.here (file "signal") with
      | .ok _ => .killed
      | .error _ => .exited 0

end Make

end Rehearsal

end ExampleBuild
