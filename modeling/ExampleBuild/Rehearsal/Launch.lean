import ExampleBuild.Command
import ExampleBuild.Rehearsal.Tools

namespace ExampleBuild

/-! How a process is started: its program is found, and what the program file holds
decides what runs. -/

namespace Rehearsal

/-- The files, and the lines that tools have written about their calls. -/
structure State where
  tree : FileTree
  calls : List ByteText

/-- A request to start a process, with the directory that it is to run in already
found. -/
structure Request where
  program : ByteText
  arguments : List ByteText
  environment : Environment
  ownEnvironment : Bool
  here : Location

namespace Request

def shellProcess (request : Request) (name : ByteText) (arguments : List ByteText) :
    Shell.Process :=
  ⟨request.environment, name, arguments⟩

def runShell (state : State) (request : Request) : Ending :=
  match request.arguments with
  | [] => .exited 0
  | first :: rest =>
      if first = utf8 "-c" then
        match rest with
        | [] => .exited 2
        | [script] => Shell.run (request.shellProcess request.program []) script
        | script :: name :: arguments =>
            Shell.run (request.shellProcess name arguments) script
      else
        match state.tree.fileText? request.here first with
        | none => .exited Shell.unknownCommand
        | some script => Shell.run (request.shellProcess first rest) script

def runTool (state : State) (request : Request) (name : ByteText) :
    Tool → Ending × State
  | .shell => (request.runShell state, state)
  | .compiler =>
      let process : ToolProcess :=
        ⟨name, request.arguments, request.environment, request.here⟩
      let (ending, tree) := Compiler.run state.tree process
      (ending, ⟨tree, state.calls ++ [process.callLine]⟩)
  | .make =>
      let process : ToolProcess :=
        ⟨name, request.arguments, request.environment, request.here⟩
      (Make.run state.tree process, { state with calls := state.calls ++ [process.makeCallLine] })

def isBlank (byte : UInt8) : Bool := byte = 32 || byte = 9

def interpreter? : ByteText → Option Path
  | 35 :: 33 :: text =>
      let words := (text.takeWhile (· ≠ 10)).dropWhile isBlank
      match words.takeWhile fun byte => !isBlank byte with
      | [] => none
      | path => some path
  | _ => none

def checkProgram (tree : FileTree) (here : Location) (path : Path) : Except SystemError Unit :=
  match tree.locate .followed here path with
  | .error cause => .error cause
  | .ok location =>
      match tree.item? location with
      | some (.file _ true) => .ok ()
      | _ => .error .permissionDenied

/-- Run the file found for the program. A file that is not marked as executable, or is
none, cannot be run. A text that names no interpreter is a script at most where the
shell may be tried on it. -/
def execute (state : State) (request : Request) (tryShell : Bool) (candidate : Path) :
    Except SystemError (Ending × State) :=
  match state.tree.locate .followed request.here candidate with
  | .error cause => .error cause
  | .ok location =>
      match state.tree.item? location with
      | some (.file (.tool tool) true) => .ok (request.runTool state candidate tool)
      | some (.file (.text text) true) =>
          let script := Shell.run (request.shellProcess candidate request.arguments) text
          match interpreter? text with
          | none => if tryShell then .ok (script, state) else .error .badExecutable
          | some interpreter =>
              match checkProgram state.tree request.here interpreter with
              | .error cause => .error cause
              | .ok () => .ok (script, state)
      | _ => .error .permissionDenied

/-! ## The search path -/

def defaultSearchPath : ByteText := utf8 "/bin:/usr/bin"

def candidateIn (directory : Path) (program : ByteText) : Path :=
  if directory = [] then program else directory ++ Path.slash :: program

def isPassedOver : SystemError → Bool
  | .notFound | .notADirectory | .permissionDenied => true
  | _ => false

/-- Try one directory after the other. A candidate without permission is remembered, and
answers for the search if nothing else is found. The search that goes by an environment
of the request's own tries the shell. -/
def search (state : State) (request : Request) (failure : SystemError) :
    List Path → Except SystemError (Ending × State)
  | [] => .error failure
  | directory :: rest =>
      match execute state request request.ownEnvironment
          (candidateIn directory request.program) with
      | .ok result => .ok result
      | .error cause =>
          if !isPassedOver cause then .error cause
          else
            let remembered := if failure = .permissionDenied then failure else cause
            search state request remembered rest

def start (state : State) (request : Request) (searchPath : ByteText) :
    Except SystemError (Ending × State) :=
  if request.program = [] then .error .notFound
  else if request.program.contains Path.slash then
    execute state request false request.program
  else request.search state .notFound (SearchPath.directories searchPath)

end Request

/-! ## Commands -/

def holdsZero (command : Command) (directory : Path) : Bool :=
  (utf8 command.program).contains 0 || directory.contains 0
    || (command.arguments.any fun argument => (utf8 argument).contains 0)
    || (command.environment.any fun environment =>
      environment.entries.any fun entry => entry.1.contains 0 || entry.2.contains 0)

def launch (base : Environment) (here : Location) (state : State) (command : Command)
    (directory : Path) : Ending × State :=
  if holdsZero command directory then (.notStarted .nulInCommand, state)
  else
    match state.tree.locateDirectory here directory with
    | .error cause => (.notStarted cause, state)
    | .ok found =>
        let environment := command.environment.getD base
        let request : Request :=
          { program := utf8 command.program
            arguments := command.arguments.map utf8
            environment
            ownEnvironment := command.environment.isSome
            here := found }
        let searchPath :=
          (environment.get? (utf8 searchPathName)).getD Request.defaultSearchPath
        match request.start state searchPath with
        | .error cause => (.notStarted cause, state)
        | .ok result => result

end Rehearsal

end ExampleBuild
