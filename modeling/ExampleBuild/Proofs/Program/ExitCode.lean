import ExampleBuild.Proofs.Arguments.HelpText
import ExampleBuild.Proofs.Program.Endings

namespace ExampleBuild

theorem ArgumentError.exitCode_eq_two_iff {error : ArgumentError} :
    error.exitCode = 2 ↔ error ≠ .helpWanted ∧ error ≠ .versionWanted := by
  cases error <;> simp [exitCode, isRequest]

theorem Outcome.exitCode_ne_two {outcome : Outcome} : outcome.exitCode ≠ 2 := by
  cases outcome <;> simp [exitCode, isSuccess]

theorem Outcome.exitCode_eq_zero_iff {outcome : Outcome} :
    outcome.exitCode = 0 ↔ ∃ summary, outcome = .succeeded summary := by
  cases outcome <;> simp [exitCode, isSuccess]

namespace Program

/-! The exit code of a run tells how it ended. Whoever starts the program can rely on zero
for nothing but what was asked for, and on two for nothing having been tried. -/

/-! ## Two and zero -/

/-- The arguments give no options, and were no request for help or for the version. -/
def IsMisread (environment : Environment) (arguments : List ByteText) : Prop :=
  ∃ error, readOptions environment arguments = .error error ∧
    error ≠ .helpWanted ∧ error ≠ .versionWanted

section

variable {σ : Type} (machine : Machine σ) (arguments : List ByteText) (state : σ)

/-- What a run that was asked for something has to come to. -/
inductive EndsWell (launched : List Launch) (shown : List String) : Prop
  | help
      (asked : readOptions machine.environment arguments = .error .helpWanted)
      (answered : shown = Help.lines (Emphasis.isWanted machine.environment)
        (machine.environment.get? compilerVariable))
  | version
      (asked : readOptions machine.environment arguments = .error .versionWanted)
      (answered : shown =
        [ArgumentError.versionWanted.line (Emphasis.isWanted machine.environment)])
  | dryRun {options : Options} {config : Config}
      (starts : Starts machine arguments state options config)
      (dry : options.dryRun = true)
      (completes : DryRun.Completes machine config options.output state)
  | build {options : Options} {config : Config} {plan : Plan}
      (starts : Starts machine arguments state options config)
      (wet : options.dryRun = false)
      (discovered : (discover machine config.directory config.platform state).result = .ok plan)
      (succeeds : EachSucceeds config machine.environment plan.entries launched)

end

section

variable {σ : Type} {machine : Machine σ} {arguments : List ByteText} {state : σ}
  {options : Options} {config : Config} {launched : List Launch} {shown : List String}
  {code : Nat}

theorem Starts.config_eq {other : Config}
    (starts : Starts machine arguments state options config)
    (startsSo : Starts machine arguments state options other) : other = config :=
  Except.ok.inj (startsSo.configured.symm.trans starts.configured)

theorem not_isMisread (read : readOptions machine.environment arguments = .ok options) :
    ¬ IsMisread machine.environment arguments := by
  intro isMisread
  rcases isMisread with ⟨error, misread, _⟩
  cases read.symm.trans misread

theorem not_endsWell (isMisread : IsMisread machine.environment arguments) :
    ¬ EndsWell machine arguments state launched shown := by
  intro endsWell
  cases endsWell with
  | help asked =>
      rcases isMisread with ⟨error, misread, noHelp, _⟩
      cases asked.symm.trans misread
      exact noHelp rfl
  | version asked =>
      rcases isMisread with ⟨error, misread, _, noVersion⟩
      cases asked.symm.trans misread
      exact noVersion rfl
  | dryRun starts => exact not_isMisread starts.read isMisread
  | build starts => exact not_isMisread starts.read isMisread

theorem EndsWell.of_options (endsWell : EndsWell machine arguments state launched shown)
    (read : readOptions machine.environment arguments = .ok options) :
    ∃ config, Starts machine arguments state options config ∧
      (options.dryRun = true → DryRun.Completes machine config options.output state) ∧
      (options.dryRun = false →
        ∃ plan, (discover machine config.directory config.platform state).result = .ok plan ∧
          EachSucceeds config machine.environment plan.entries launched) := by
  cases endsWell with
  | help asked => cases read.symm.trans asked
  | version asked => cases read.symm.trans asked
  | @dryRun _ config starts dry completes =>
      cases starts.read.symm.trans read
      exact ⟨config, starts, fun _ => completes, fun wet => by simp [dry] at wet⟩
  | @build _ config plan starts wet discovered succeeds =>
      cases starts.read.symm.trans read
      exact ⟨config, starts, fun dry => by simp [wet] at dry,
        fun _ => ⟨plan, discovered, succeeds⟩⟩

theorem Ends.misread_iff (ends : Ends machine arguments state launched shown code) :
    code = 2 ↔ IsMisread machine.environment arguments := by
  cases ends with
  | @refused error misread =>
      rw [ArgumentError.exitCode_eq_two_iff]
      constructor
      · exact fun wrong => ⟨error, misread, wrong⟩
      · intro isMisread
        rcases isMisread with ⟨other, same, wrong⟩
        cases misread.symm.trans same
        exact wrong
  | lost read => exact iff_of_false (by simp) (not_isMisread read)
  | rehearsed starts => exact iff_of_false (by simp) (not_isMisread starts.read)
  | unrehearsed starts => exact iff_of_false (by simp) (not_isMisread starts.read)
  | stopped starts => exact iff_of_false (by simp) (not_isMisread starts.read)
  | built duration starts =>
      exact iff_of_false Outcome.exitCode_ne_two (not_isMisread starts.read)

theorem Ends.code_cases (ends : Ends machine arguments state launched shown code) :
    code = 0 ∨ code = 1 ∨ code = 2 := by
  cases ends with
  | @refused error => cases error <;> simp [ArgumentError.exitCode, ArgumentError.isRequest]
  | lost | rehearsed | unrehearsed | stopped => simp
  | @built _ _ outcome => cases outcome <;> simp [Outcome.exitCode, Outcome.isSuccess]

theorem Ends.launched_of_misread (ends : Ends machine arguments state launched shown code)
    (isMisread : IsMisread machine.environment arguments) : launched = [] := by
  cases ends with
  | refused | lost | rehearsed | unrehearsed => rfl
  | stopped starts => exact absurd isMisread (not_isMisread starts.read)
  | built duration starts => exact absurd isMisread (not_isMisread starts.read)

theorem Ends.endsWell_iff (ends : Ends machine arguments state launched shown code) :
    code = 0 ↔ EndsWell machine arguments state launched shown := by
  cases ends with
  | @refused error misread =>
      by_cases wrong : error ≠ .helpWanted ∧ error ≠ .versionWanted
      · rw [ArgumentError.exitCode_eq_two_iff.mpr wrong]
        exact iff_of_false (by simp) (not_endsWell ⟨error, misread, wrong⟩)
      · rw [not_and_or, not_not, not_not] at wrong
        rcases wrong with rfl | rfl
        · exact iff_of_true rfl (.help misread (forOutput_output _))
        · exact iff_of_true rfl (.version misread rfl)
  | lost read unconfigured =>
      refine ⟨fun impossible => by simp at impossible, fun endsWell => ?_⟩
      rcases endsWell.of_options read with ⟨config, starts, _⟩
      cases unconfigured.symm.trans starts.configured
  | rehearsed starts dry completes => exact iff_of_true rfl (.dryRun starts dry completes)
  | unrehearsed starts dry incomplete =>
      refine ⟨fun impossible => by simp at impossible, fun endsWell => ?_⟩
      rcases endsWell.of_options starts.read with ⟨config, startsSo, completes, _⟩
      cases starts.config_eq startsSo
      exact absurd (completes dry) incomplete
  | @stopped _ config _ starts wet unfinished =>
      -- Had everything been built, the build would have come to an outcome.
      refine ⟨fun impossible => by simp at impossible, fun endsWell => ?_⟩
      rcases endsWell.of_options starts.read with ⟨config, startsSo, _, succeeds⟩
      cases starts.config_eq startsSo
      rcases (buildDirectory_succeeds_iff machine config state).mpr (succeeds wet) with
        ⟨summary, finished⟩
      cases unfinished.symm.trans finished
  | @built options config outcome duration starts wet finished =>
      rw [Outcome.exitCode_eq_zero_iff]
      have succeeds := buildDirectory_succeeds_iff machine config state
      simp only [finished, Except.ok.injEq] at succeeds
      rw [succeeds]
      constructor
      · intro built
        rcases built with ⟨plan, discovered, each⟩
        exact .build starts wet discovered each
      · intro endsWell
        rcases endsWell.of_options starts.read with ⟨config, startsSo, _, built⟩
        cases starts.config_eq startsSo
        exact built wet

end

/-! ## One -/

section

variable {σ : Type} (machine : Machine σ) (options : Options) (state : σ)

/-- The directory that the options ask for. Without one it is the current one. -/
def IsAskedFor (directory : Path) : Prop :=
  options.directory = some directory ∨
    options.directory = none ∧ machine.currentDirectory state = .ok directory

/-- There is no listing of the examples, for want of a directory or of access to it. -/
inductive LacksListing : Prop
  | nowhere {cause : SystemError}
      (unasked : options.directory = none)
      (lost : machine.currentDirectory state = .error cause)
  | notFound {directory : Path} {cause : SystemError}
      (asked : IsAskedFor machine options state directory)
      (missing : machine.canonical state directory = .error cause)
  | unlistable {directory found : Path} {cause : SystemError}
      (asked : IsAskedFor machine options state directory)
      (resolved : machine.canonical state directory = .ok found)
      (unlisted : machine.list state found = .error cause)

end

section

variable {σ : Type} {machine : Machine σ} {arguments : List ByteText} {state : σ}
  {options : Options} {config : Config} {launched : List Launch} {shown : List String}
  {code : Nat}

theorem examplesDirectory_eq_ok_iff {directory found : Path}
    (asked : IsAskedFor machine options state directory) :
    examplesDirectory machine options state = .ok found ↔
      machine.canonical state directory = .ok found := by
  rw [examplesDirectory]
  rcases asked with asked | ⟨unasked, here⟩
  · rw [asked]
    cases came : machine.canonical state directory <;> simp [came]
  · rw [unasked, here]
    cases came : machine.canonical state directory <;> simp [came]

theorem Starts.examplesDirectory_eq (starts : Starts machine arguments state options config) :
    examplesDirectory machine options state = .ok config.directory := by
  have configured := starts.configured
  rw [configure] at configured
  cases found : examplesDirectory machine options state with
  | error problem => simp [found] at configured
  | ok directory =>
      simp only [found, Except.ok.injEq] at configured
      rw [← configured]

theorem LacksListing.discover_ne_ok (lacks : LacksListing machine options state)
    (starts : Starts machine arguments state options config) (plan : Plan) :
    (discover machine config.directory config.platform state).result ≠ .ok plan := by
  cases lacks with
  | nowhere unasked lost =>
      have found := starts.examplesDirectory_eq
      rw [examplesDirectory, unasked, lost] at found
      cases found
  | notFound asked missing =>
      have found := (examplesDirectory_eq_ok_iff asked).mp starts.examplesDirectory_eq
      cases missing.symm.trans found
  | unlistable asked resolved unlisted =>
      have found := (examplesDirectory_eq_ok_iff asked).mp starts.examplesDirectory_eq
      cases resolved.symm.trans found
      rw [(discover_eq machine config.directory config.platform state).2, unlisted]
      simp

theorem LacksListing.not_endsWell (lacks : LacksListing machine options state)
    (read : readOptions machine.environment arguments = .ok options) :
    ¬ EndsWell machine arguments state launched shown := by
  intro endsWell
  rcases endsWell.of_options read with ⟨config, starts, dryRun, build⟩
  cases dry : options.dryRun with
  | true =>
      rcases dryRun dry with ⟨plan, discovered, _⟩
      exact lacks.discover_ne_ok starts plan discovered
  | false =>
      rcases build dry with ⟨plan, discovered, _⟩
      exact lacks.discover_ne_ok starts plan discovered

theorem Ends.of_lacksListing (ends : Ends machine arguments state launched shown code)
    (read : readOptions machine.environment arguments = .ok options)
    (lacks : LacksListing machine options state) : code = 1 ∧ launched = [] := by
  have notZero : code ≠ 0 := fun zero => lacks.not_endsWell read (ends.endsWell_iff.mp zero)
  have notTwo : code ≠ 2 := fun two => not_isMisread read (ends.misread_iff.mp two)
  have one : code = 1 := by
    have codes := ends.code_cases
    omega
  refine ⟨one, ?_⟩
  cases ends with
  | refused | lost | rehearsed | unrehearsed => rfl
  | @stopped _ config _ starts _ unfinished | @built _ config _ _ starts _ unfinished =>
      cases read.symm.trans starts.read
      rw [launches_buildDirectory]
      cases came : (discover machine config.directory config.platform state).result with
      | error error => rfl
      | ok plan => exact absurd came (lacks.discover_ne_ok starts plan)

theorem run_of_lacksListing (read : readOptions machine.environment arguments = .ok options)
    (lacks : LacksListing machine options state) :
    (run machine arguments state).result = 1 ∧
      launches (run machine arguments state).actions = [] :=
  (run_ends machine arguments state).of_lacksListing read lacks

theorem run_of_helpWanted
    (asked : readOptions machine.environment arguments = .error .helpWanted) :
    (run machine arguments state).result = 0 ∧
      Help.usageLine (Emphasis.isWanted machine.environment) ∈
        outputLines (run machine arguments state).actions := by
  rw [run, asked]
  simp only [refuse_eq, outputLines_printings, answer, forOutput_output]
  exact ⟨rfl, Help.usageLine_mem_lines _ _⟩

end

/-! ## Reports of builds -/

def successLine (environment : Environment) : String :=
  (Style.ofEnvironment environment).success BuildRun.successMessage

theorem successLine_eq (environment : Environment) : successLine environment =
    if Colours.areWanted environment then "\x1b[32m✓\x1b[39m All examples built successfully."
    else "✓ All examples built successfully." := by
  rw [successLine, Style.ofEnvironment]
  cases Colours.areWanted environment <;> rfl

/-- The status that a report in JSON begins with. -/
def printedStatus? (report : String) : Option String :=
  (report.toList.dropPrefix? "\x7b\n  \"status\": \"".toList).map fun rest =>
    .ofList (rest.takeWhile fun letter => letter ≠ '"')

theorem printedStatus?_toJson (outcome : Outcome) :
    printedStatus? outcome.toJson.indented =
      some (if outcome.isSuccess then "succeeded" else "failed") := by
  rw [printedStatus?, Json.indented, String.toList_ofList]
  cases outcome <;> rfl

def IsBuildRun (environment : Environment) (arguments : List ByteText)
    (format : OutputFormat) : Prop :=
  ∃ options, readOptions environment arguments = .ok options ∧ options.dryRun = false ∧
    options.output = format

section

variable {σ : Type} (machine : Machine σ) (arguments : List ByteText) (state : σ)

/-- A build run that no error stops comes to an outcome. -/
structure YieldsOutcome (options : Options) (config : Config) (outcome : Outcome) : Prop where
  starts : Starts machine arguments state options config
  wet : options.dryRun = false
  finished : (buildDirectory machine config state).result = .ok outcome

end

section

variable {σ : Type} {machine : Machine σ} {arguments : List ByteText} {state : σ}
  {options : Options} {config : Config} {outcome : Outcome} {launched : List Launch}
  {shown : List String} {code : Nat}

theorem YieldsOutcome.outcome_eq {other : Config} {second : Outcome}
    (yields : YieldsOutcome machine arguments state options config outcome)
    (yieldsSo : YieldsOutcome machine arguments state options other second) :
    second = outcome := by
  cases yields.starts.config_eq yieldsSo.starts
  exact Except.ok.inj (yieldsSo.finished.symm.trans yields.finished)

/-- A run that builds comes to an outcome, which decides the rest, or to none. -/
theorem Ends.of_build (ends : Ends machine arguments state launched shown code)
    (read : readOptions machine.environment arguments = .ok options)
    (wet : options.dryRun = false) :
    (code = 1 ∧ shown = [] ∧
      ∀ config outcome, ¬ YieldsOutcome machine arguments state options config outcome) ∨
    ∃ config outcome duration, YieldsOutcome machine arguments state options config outcome ∧
      code = outcome.exitCode ∧ shown = forOutput (BuildRun.reportLines machine.environment
        options.output options.verbose duration outcome) := by
  cases ends with
  | refused misread => cases read.symm.trans misread
  | lost readSo unconfigured =>
      cases read.symm.trans readSo
      refine .inl ⟨rfl, rfl, fun config outcome yields => ?_⟩
      cases unconfigured.symm.trans yields.starts.configured
  | rehearsed starts dry =>
      cases read.symm.trans starts.read
      simp [wet] at dry
  | unrehearsed starts dry =>
      cases read.symm.trans starts.read
      simp [wet] at dry
  | stopped starts _ unfinished =>
      cases read.symm.trans starts.read
      refine .inl ⟨rfl, rfl, fun config outcome yields => ?_⟩
      cases starts.config_eq yields.starts
      cases unfinished.symm.trans yields.finished
  | built duration starts _ finished =>
      cases read.symm.trans starts.read
      exact .inr ⟨_, _, duration, ⟨starts, wet, finished⟩, rfl, rfl⟩

theorem Ends.of_outcome (ends : Ends machine arguments state launched shown code)
    (yields : YieldsOutcome machine arguments state options config outcome) :
    code = outcome.exitCode ∧ ∃ duration, shown = forOutput
      (BuildRun.reportLines machine.environment options.output options.verbose duration
        outcome) := by
  rcases ends.of_build yields.starts.read yields.wet with
    ⟨_, _, noOutcome⟩ | ⟨_, _, duration, yieldsSo, exited, printed⟩
  · exact absurd yields (noOutcome _ _)
  · cases yields.outcome_eq yieldsSo
    exact ⟨exited, duration, printed⟩

/-- A build run in text says that everything was built, or its output is left to the tools. -/
theorem Ends.output_of_text (ends : Ends machine arguments state launched shown code)
    (inText : IsBuildRun machine.environment arguments .text) :
    (code = 0 ∧ successLine machine.environment ∈ shown) ∨ (code = 1 ∧ shown = []) := by
  rcases inText with ⟨options, read, wet, text⟩
  rcases ends.of_build read wet with
    ⟨one, silent, _⟩ | ⟨_, outcome, duration, _, exited, printed⟩
  · exact .inr ⟨one, silent⟩
  · rw [text, BuildRun.reportLines] at printed
    cases outcome with
    | succeeded summary =>
        refine .inl ⟨exited, ?_⟩
        rw [printed, BuildRun.outcomeLines, forOutput_output]
        exact List.mem_cons_self
    | failed failure =>
        refine .inr ⟨exited, ?_⟩
        rw [printed, BuildRun.outcomeLines]
        cases failure.fault.isLaunchFailure <;> rfl

end

/-! ## The exit code -/

structure ExitCodeTells {σ : Type} (machine : Machine σ) (arguments : List ByteText) (state : σ)
    (run : Performed σ Nat) : Prop where
  two_iff : run.result = 2 ↔ IsMisread machine.environment arguments
  two_launches : run.result = 2 → launches run.actions = []
  zero_iff : run.result = 0 ↔
    EndsWell machine arguments state (launches run.actions) (outputLines run.actions)
  one_iff : run.result = 1 ↔ ¬ IsMisread machine.environment arguments ∧
    ¬ EndsWell machine arguments state (launches run.actions) (outputLines run.actions)
  success_line_iff : IsBuildRun machine.environment arguments .text →
    (successLine machine.environment ∈ outputLines run.actions ↔ run.result = 0)
  /-- Where a build fails, the output is left to its process, whether that exited, was killed
  or was never launched. -/
  failure_silent : ∀ options config failure,
    YieldsOutcome machine arguments state options config (.failed failure) →
      options.output = .text → outputLines run.actions = []
  status_iff : ∀ options config outcome,
    YieldsOutcome machine arguments state options config outcome → options.output = .json →
      ∃ report, outputLines run.actions = [report] ∧
        (printedStatus? report = some "succeeded" ↔ run.result = 0)

/-- Whatever the arguments, the environment, the files and the tools are, the exit code of
the program is sound. -/
theorem run_exitCode_tells {σ : Type} (machine : Machine σ) (arguments : List ByteText)
    (state : σ) : ExitCodeTells machine arguments state (run machine arguments state) := by
  have ends := run_ends machine arguments state
  refine ⟨ends.misread_iff, fun two => ends.launched_of_misread (ends.misread_iff.mp two),
    ends.endsWell_iff, ?_, ?_, ?_, ?_⟩
  · rw [← ends.misread_iff, ← ends.endsWell_iff]
    have codes := ends.code_cases
    omega
  · intro inText
    rcases ends.output_of_text inText with ⟨zero, said⟩ | ⟨one, silent⟩
    · exact iff_of_true said zero
    · rw [silent, one]
      exact iff_of_false List.not_mem_nil (by simp)
  · intro options config failure yields inText
    have inText : IsBuildRun machine.environment arguments .text :=
      ⟨options, yields.starts.read, yields.wet, inText⟩
    rcases ends.output_of_text inText with ⟨zero, _⟩ | ⟨_, silent⟩
    · rw [(ends.of_outcome yields).1] at zero
      cases zero
    · exact silent
  · intro options config outcome yields inJson
    rcases ends.of_outcome yields with ⟨code, duration, printed⟩
    refine ⟨outcome.toJson.indented, ?_, ?_⟩
    · rw [printed, inJson]
      rfl
    · rw [code, printedStatus?_toJson]
      cases outcome <;> simp [Outcome.isSuccess, Outcome.exitCode]

end Program

/-! A source is built where there is one. There is nothing to build in a directory that is not
there, and nothing is built for help. -/

namespace Rehearsal

open Program

def oneSource : Scene := .ofText <| utf8 <| "\n".intercalate
  ["directory examples", "file examples/hello.cx ok", "compiler bin/cx"]

example :
    let run directory := run oneSource.machine
      [utf8 "--cx", utf8 "bin/cx", utf8 "--dir", utf8 directory] oneSource.state
    (run "examples").result = 0 ∧
      outputLines (run "examples").actions = ["✓ All examples built successfully."] ∧
      (run "nowhere").result = 1 ∧ outputLines (run "nowhere").actions = [] := by
  decide +kernel

example : "Usage: build-examples [OPTIONS] [CX_ARGS]..." ∈
    outputLines (run oneSource.machine [utf8 "-h"] oneSource.state).actions :=
  (run_of_helpWanted (by decide +kernel)).2

end Rehearsal

end ExampleBuild
