import ExampleBuild.Arguments.Options
import ExampleBuild.Build
import ExampleBuild.Duration
import ExampleBuild.Report.Json
import ExampleBuild.Report.Problem
import ExampleBuild.Report.Style

namespace ExampleBuild

/-! A build run builds every example and reports the outcome. A build that failed has
spoken for itself, so only one that could not be started is reported. -/

namespace BuildRun

def successMessage : String := "All examples built successfully."

def successLines (style : Style) (verbose : Bool) (summary : Summary)
    (duration : Duration) : List String :=
  style.success successMessage ::
    if verbose then
      style.statistic "Built" (toString summary.built.length) ::
        ((if summary.skipped = [] then []
          else [style.statistic "Skipped" (", ".intercalate summary.skipped)]) ++
        [style.statistic "Duration" duration.shown])
    else []

def outcomeLines (style : Style) (verbose : Bool) (duration : Duration) :
    Outcome → List (Stream × String)
  | .succeeded summary =>
      (successLines style verbose summary duration).map fun line => (.output, line)
  | .failed failure =>
      if failure.fault.isLaunchFailure then
        [(.diagnostics, style.failure (failure.entry ++ ": " ++ failure.fault.shown))]
      else []

def perform {σ : Type} (machine : Machine σ) (config : Config) (format : OutputFormat)
    (verbose : Bool) : Activity σ (Except Problem Outcome) := do
  let start ← .reading machine.clock
  match ← buildDirectory machine config with
  | .error error => return .error ((Problem.ofRunError error).within "Build run failed")
  | .ok outcome =>
      match format with
      | .json => .print .output outcome.toJson.indented
      | .text =>
          let finish ← .reading machine.clock
          let style := Style.ofEnvironment machine.environment
          let duration := Duration.ofNanoseconds (finish - start)
          .inOrder ((outcomeLines style verbose duration outcome).map fun line =>
            .print line.1 line.2)
      return .ok outcome

end BuildRun

end ExampleBuild
