import ExampleBuild.Proofs.Program.Reports

namespace ExampleBuild

open Activity

namespace Program

/-! How a run of the program can end: after which launches, with what on its output, and with
which exit code. It is a relation with a rule for each way, and every run fulfils it. -/

def answer (environment : Environment) (error : ArgumentError) : List (Stream × String) :=
  let emphasis := Emphasis.isWanted environment
  match error with
  | .helpWanted =>
      (Help.lines emphasis (environment.get? compilerVariable)).map fun line => (.output, line)
  | .versionWanted => [(.output, error.line emphasis)]
  | _ => [(.diagnostics, error.line emphasis)]

def explanation (problem : Problem) : List (Stream × String) :=
  problem.lines.map fun line => (.diagnostics, line)

@[simp] theorem forOutput_explanation (problem : Problem) :
    forOutput (explanation problem) = [] :=
  forOutput_diagnostics problem.lines

section

variable {σ : Type} (machine : Machine σ) (arguments : List ByteText) (state : σ)

structure Starts (options : Options) (config : Config) : Prop where
  read : readOptions machine.environment arguments = .ok options
  configured : configure machine options state = .ok config

inductive Ends : List Launch → List String → Nat → Prop
  | refused {error : ArgumentError}
      (misread : readOptions machine.environment arguments = .error error) :
      Ends [] (forOutput (answer machine.environment error)) error.exitCode
  | lost {options : Options} {problem : Problem}
      (read : readOptions machine.environment arguments = .ok options)
      (unconfigured : configure machine options state = .error problem) :
      Ends [] [] 1
  | rehearsed {options : Options} {config : Config} {shown : List String}
      (starts : Starts machine arguments state options config)
      (dry : options.dryRun = true)
      (completes : DryRun.Completes machine config options.output state) :
      Ends [] shown 0
  | unrehearsed {options : Options} {config : Config} {shown : List String}
      (starts : Starts machine arguments state options config)
      (dry : options.dryRun = true)
      (incomplete : ¬ DryRun.Completes machine config options.output state) :
      Ends [] shown 1
  | stopped {options : Options} {config : Config} {error : RunError}
      (starts : Starts machine arguments state options config)
      (wet : options.dryRun = false)
      (unfinished : (buildDirectory machine config state).result = .error error) :
      Ends (launches (buildDirectory machine config state).actions) [] 1
  | built {options : Options} {config : Config} {outcome : Outcome} (duration : Duration)
      (starts : Starts machine arguments state options config)
      (wet : options.dryRun = false)
      (finished : (buildDirectory machine config state).result = .ok outcome) :
      Ends (launches (buildDirectory machine config state).actions)
        (forOutput (BuildRun.reportLines machine.environment options.output options.verbose
          duration outcome)) outcome.exitCode

end

/-! ## Every run ends so -/

section

variable {σ : Type} {machine : Machine σ} {arguments : List ByteText} {state : σ}
  {options : Options} {config : Config}

theorem refuse_eq (error : ArgumentError) :
    refuse machine error state =
      ⟨error.exitCode, printings (answer machine.environment error), state⟩ := by
  cases error with
  | helpWanted => simp [refuse, answer]
  | _ => rfl

theorem giveUp_eq (problem : Problem) (state : σ) :
    giveUp problem state = ⟨1, printings (explanation problem), state⟩ := by
  simp [giveUp, explanation]

theorem runWith_of_dryRun (dry : options.dryRun = true) :
    runWith machine options config state =
      let shown := DryRun.perform machine config options.output state
      match shown.result with
      | .ok () => ⟨0, .noted (.resolvedConfig config) :: shown.actions, shown.state⟩
      | .error problem => ⟨1, .noted (.resolvedConfig config) ::
          (shown.actions ++ printings (explanation problem)), shown.state⟩ := by
  simp only [runWith, dry, if_true, bind_apply, note_apply]
  cases (DryRun.perform machine config options.output state).result <;> simp [giveUp_eq]

theorem runWith_of_build (wet : options.dryRun = false) :
    runWith machine options config state =
      let built := buildDirectory machine config state
      let duration := Duration.ofNanoseconds (machine.clock built.state - machine.clock state)
      match built.result with
      | .ok outcome => ⟨outcome.exitCode, .noted (.resolvedConfig config) :: (built.actions ++
          printings (BuildRun.reportLines machine.environment options.output options.verbose
            duration outcome)), built.state⟩
      | .error error => ⟨1, .noted (.resolvedConfig config) :: (built.actions ++ printings
          (explanation ((Problem.ofRunError error).within "Build run failed"))),
          built.state⟩ := by
  simp only [runWith, wet, Bool.false_eq_true, if_false, bind_apply, note_apply,
    BuildRun.perform_eq]
  cases (buildDirectory machine config state).result <;> simp [giveUp_eq]

theorem run_of_options (read : readOptions machine.environment arguments = .ok options) :
    run machine arguments state =
      let complaints := printings ((Log.View.complaints options.verbose
        machine.environment).map fun line => (.diagnostics, line))
      match configure machine options state with
      | .error problem => ⟨1, complaints ++ printings (explanation problem), state⟩
      | .ok config =>
          let onward := runWith machine options config state
          ⟨onward.result, complaints ++ onward.actions, onward.state⟩ := by
  simp only [run, read, bind_apply, inOrder_print, reading_apply, List.nil_append]
  cases configure machine options state <;> simp [giveUp_eq]

theorem runWith_ends (starts : Starts machine arguments state options config) :
    let run := runWith machine options config state
    Ends machine arguments state (launches run.actions) (outputLines run.actions)
      run.result := by
  cases dry : options.dryRun with
  | true =>
      have completes : _ ↔ DryRun.Completes machine config options.output state :=
        DryRun.perform_ok_iff options.output state
      have quiet : launches (DryRun.perform machine config options.output state).actions = [] :=
        (DryRun.perform_launchesNothing options.output).launches_eq state
      rw [runWith_of_dryRun dry]
      cases came : (DryRun.perform machine config options.output state).result with
      | ok =>
          simp only [came, launches_noted, quiet]
          exact .rehearsed starts dry (completes.mp came)
      | error problem =>
          have incomplete : ¬ DryRun.Completes machine config options.output state := by
            simp [← completes, came]
          simp only [came, launches_noted, launches_append, quiet, launches_printings,
            List.append_nil]
          exact .unrehearsed starts dry incomplete
  | false =>
      have silent : outputLines (buildDirectory machine config state).actions = [] :=
        buildDirectory_printsNothing.outputLines_eq state
      rw [runWith_of_build dry]
      cases came : (buildDirectory machine config state).result with
      | ok outcome =>
          simp only [came, launches_noted, launches_append, launches_printings, List.append_nil,
            outputLines_noted, outputLines_append, silent, outputLines_printings,
            List.nil_append]
          exact .built _ starts dry came
      | error error =>
          simp only [came, launches_noted, launches_append, launches_printings, List.append_nil,
            outputLines_noted, outputLines_append, silent, outputLines_printings,
            forOutput_explanation]
          exact .stopped starts dry came

/-- Every run of the program ends in one of the ways. -/
theorem run_ends (machine : Machine σ) (arguments : List ByteText) (state : σ) :
    let run := run machine arguments state
    Ends machine arguments state (launches run.actions) (outputLines run.actions)
      run.result := by
  cases read : readOptions machine.environment arguments with
  | error error =>
      simp only [run, read, refuse_eq, launches_printings, outputLines_printings]
      exact .refused read
  | ok options =>
      rw [run_of_options read]
      cases configured : configure machine options state with
      | error problem =>
          simp only [launches_append, launches_printings, outputLines_append,
            outputLines_printings, forOutput_diagnostics, forOutput_explanation,
            List.append_nil]
          exact .lost read configured
      | ok config =>
          simp only [launches_append, launches_printings, outputLines_append,
            outputLines_printings, forOutput_diagnostics, List.nil_append]
          exact runWith_ends ⟨read, configured⟩

end

end Program

end ExampleBuild
