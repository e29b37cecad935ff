import ExampleBuild.Discovery
import ExampleBuild.Report.Json
import ExampleBuild.Report.Problem
import ExampleBuild.Report.Style
import ExampleBuild.Arguments.Options

namespace ExampleBuild

/-! A dry run shows the plan and the commands that would be run, and runs none. -/

namespace DryRun

def commandFor (config : Config) (environment : Environment) (entry : Entry) :
    Except RunError (Option Command) :=
  match entry.treatment with
  | .compile artifact => .ok (some (Command.compile config entry.name artifact))
  | .make => (Command.make config entry.name environment).map some
  | .excluded | .ignored => .ok none

def commandText (style : Style) (command : Command) : String :=
  "      " ++ style.dimmed command.program ++ " "
    ++ style.dimmed (" ".intercalate command.arguments)

def entryLines (style : Style) (entry : Entry) : Option Command → List String
  | some command =>
      ["  " ++ style.green "+" ++ " " ++ entry.name ++ " "
          ++ style.dimmed ("(" ++ entry.treatment.description ++ ")"),
       commandText style command]
  | none => ["  " ++ style.dimmed "-" ++ " " ++ style.dimmed entry.shown]

def showEntries {σ : Type} (style : Style) (config : Config) (environment : Environment) :
    List Entry → Activity σ (Except RunError Unit)
  | [] => return .ok ()
  | entry :: rest =>
      match commandFor config environment entry with
      | .error error => return .error error
      | .ok command => do
          .inOrder ((entryLines style entry command).map (.print .output))
          showEntries style config environment rest

def showPlan {σ : Type} (style : Style) (config : Config) (environment : Environment)
    (plan : Plan) : Activity σ (Except RunError Unit) := do
  .print .output (style.notice ("Examples in " ++ config.directory.shown))
  .print .output ""
  match ← showEntries style config environment plan.entries with
  | .error error => return .error error
  | .ok () =>
      .print .output ""
      .print .output (style.statistic "Would build" (toString plan.buildCount))
      return .ok ()

def perform {σ : Type} (machine : Machine σ) (config : Config) (format : OutputFormat) :
    Activity σ (Except Problem Unit) := do
  match ← discover machine config.directory config.platform with
  | .error error =>
      return .error ((Problem.ofRunError error).within "Failed to scan examples directory")
  | .ok plan =>
      match format with
      | .json =>
          .print .output plan.toJson.indented
          return .ok ()
      | .text =>
          let style := Style.ofEnvironment machine.environment
          match ← showPlan style config machine.environment plan with
          | .error error => return .error (.ofRunError error)
          | .ok () => return .ok ()

end DryRun

end ExampleBuild
