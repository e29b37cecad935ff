import ExampleBuild.Arguments.Help
import ExampleBuild.CompilerPath
import ExampleBuild.Log.View
import ExampleBuild.Report.BuildRun
import ExampleBuild.Report.DryRun

namespace ExampleBuild

/-! The whole program: read the arguments, find the directory, and build or show what
would be built. -/

namespace Program

def compilerVariable : ByteText := utf8 "CX"

def readOptions (environment : Environment) (arguments : List ByteText) :
    Except ArgumentError Options :=
  Options.ofArguments arguments (environment.get? compilerVariable)

/-! ## The configuration -/

def examplesDirectory {σ : Type} (machine : Machine σ) (options : Options) (state : σ) :
    Except Problem Path :=
  let asked := match options.directory with
    | some directory => Except.ok directory
    | none => machine.currentDirectory state
  match asked with
  | .error cause => .error ⟨"Failed to determine current directory", [cause.message]⟩
  | .ok directory =>
      match machine.canonical state directory with
      | .error cause =>
          .error ⟨"Examples directory not found: " ++ directory.shown, [cause.message]⟩
      | .ok found => .ok found

def configure {σ : Type} (machine : Machine σ) (options : Options) (state : σ) :
    Except Problem Config :=
  match examplesDirectory machine options state with
  | .error problem => .error problem
  | .ok directory => .ok {
      compiler := anchoredCompiler (machine.canonical state) (machine.currentDirectory state)
        options.compiler
      extraArguments := options.forwarded
      directory
      platform := machine.platform }

/-! ## The run -/

def refuse {σ : Type} (machine : Machine σ) (error : ArgumentError) : Activity σ Nat := do
  let emphasis := Emphasis.isWanted machine.environment
  match error with
  | .helpWanted =>
      .inOrder ((Help.lines emphasis (machine.environment.get? compilerVariable)).map
        (.print .output))
  | .versionWanted => .print .output (error.line emphasis)
  | _ => .print .diagnostics (error.line emphasis)
  return error.exitCode

def giveUp {σ : Type} (problem : Problem) : Activity σ Nat := do
  .inOrder (problem.lines.map (.print .diagnostics))
  return 1

def runWith {σ : Type} (machine : Machine σ) (options : Options) (config : Config) :
    Activity σ Nat := do
  .note (.resolvedConfig config)
  if options.dryRun then
    match ← DryRun.perform machine config options.output with
    | .error problem => giveUp problem
    | .ok () => return 0
  else
    match ← BuildRun.perform machine config options.output options.verbose with
    | .error problem => giveUp problem
    | .ok outcome => return outcome.exitCode

/-- Run the program on its arguments, which do not include its own name, and answer the
exit code. -/
def run {σ : Type} (machine : Machine σ) (arguments : List ByteText) : Activity σ Nat := do
  match readOptions machine.environment arguments with
  | .error error => refuse machine error
  | .ok options =>
      .inOrder ((Log.View.complaints options.verbose machine.environment).map
        (.print .diagnostics))
      match ← .reading (configure machine options) with
      | .error problem => giveUp problem
      | .ok config => runWith machine options config

/-! ## What is seen of a run -/

def printedOn (stream : Stream) : Action → Option String
  | .printed other text => if other = stream then some text else none
  | _ => none

def outputLines (actions : List Action) : List String :=
  actions.filterMap (printedOn .output)

def diagnosticLine (view : Log.View) : Action → Option String
  | .noted event => view.line? event
  | action => printedOn .diagnostics action

def diagnosticLines (view : Log.View) (actions : List Action) : List String :=
  actions.filterMap (diagnosticLine view)

/-- How the log of a run is seen. A run whose arguments are refused has none. -/
def logView (environment : Environment) (arguments : List ByteText) : Log.View :=
  match readOptions environment arguments with
  | .error _ => .ofRun false environment
  | .ok options => .ofRun options.verbose environment

end Program

end ExampleBuild
