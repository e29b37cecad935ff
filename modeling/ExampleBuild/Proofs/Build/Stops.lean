import ExampleBuild.Proofs.Build.Directory
import ExampleBuild.Proofs.Entry.Commands

namespace ExampleBuild

/-! A build that fails is part of what a run reports. What stops a run with an error is a
directory that cannot be read, before anything is done, or the first project that it comes to,
if the directory of the compiler cannot be put into a search path. -/

section

variable {σ : Type} (machine : Machine σ) (config : Config)

/-- The sources among the entries compile one after the other, each with success, and what
each of them compiled to is removed before the next one is compiled. No entry is a project. -/
inductive AllCompile : List Entry → σ → List Action → σ → Prop
  | finished {state : σ} : AllCompile [] state [] state
  | passedOver {entry : Entry} {rest : List Entry} {state after : σ} {done : List Action}
      (treated : entry.treatment = .excluded ∨ entry.treatment = .ignored)
      (onward : AllCompile rest state done after) : AllCompile (entry :: rest) state done after
  | compiled {entry : Entry} {rest : List Entry} {artifact : String}
      {state written cleaned after : σ} {removal : Except SystemError Unit} {done : List Action}
      (treated : entry.treatment = .compile artifact)
      (launched : machine.launch state (.compile config entry.name artifact) config.directory =
        (.exited 0, written))
      (removed : machine.unlink written (artifactPath config artifact) = (removal, cleaned))
      (onward : AllCompile rest cleaned done after) :
      AllCompile (entry :: rest) state
        (.launched (.compile config entry.name artifact) config.directory (.exited 0) ::
          .unlinked (artifactPath config artifact) removal :: done) after

/-- A run is stopped at its first project, after the sources before it were compiled. -/
structure StopsAtProject (entries : List Entry) (state : σ) (error : RunError)
    (before : List Entry) (done : List Action) : Prop where
  refused : ∃ directory, compilerDirectory? config.compiler = some directory ∧
    SearchPath.colon ∈ directory ∧ error = .unwritableSearchPath directory
  project : ∃ project after, entries = before ++ project :: after ∧ project.treatment = .make
  first : ∀ entry ∈ before, entry.treatment ≠ .make
  compile : ∃ between, AllCompile machine config before state done between

def compileCommands (config : Config) (entries : List Entry) : List Command :=
  entries.filterMap fun entry => entry.artifact?.map (Command.compile config entry.name)

end

section

variable {σ : Type} {machine : Machine σ} {config : Config} {entry : Entry}
  {rest before : List Entry} {state between : σ} {error : RunError} {done : List Action}

/-! ## What stops a course -/

theorem unwritableDirectory?_eq_some_iff {compiler : String} {directory : Path} :
    unwritableDirectory? compiler = some directory ↔
      compilerDirectory? compiler = some directory ∧ SearchPath.colon ∈ directory := by
  rw [unwritableDirectory?, Option.filter_eq_some_iff, decide_eq_true_iff]

theorem Command.make_eq_error_of_stops {entries : List Entry}
    (stops : StopsAtProject machine config entries state error before done) (project : String)
    (base : Environment) : Command.make config project base = .error error := by
  rcases stops.refused with ⟨directory, found, colon, same⟩
  exact Command.make_eq_error_iff.mpr
    ⟨directory, unwritableDirectory?_eq_some_iff.mpr ⟨found, colon⟩, same⟩

namespace StopsAtProject

theorem at_first (treated : entry.treatment = .make) {project : String} {base : Environment}
    (refused : Command.make config project base = .error error) :
    StopsAtProject machine config (entry :: rest) state error [] [] where
  refused := by
    rcases Command.make_eq_error_iff.mp refused with ⟨directory, unwritable, same⟩
    rcases unwritableDirectory?_eq_some_iff.mp unwritable with ⟨found, colon⟩
    exact ⟨directory, found, colon, same⟩
  project := ⟨entry, rest, rfl, treated⟩
  first := List.forall_mem_nil _
  compile := ⟨state, .finished⟩

theorem onward (notProject : entry.treatment ≠ .make) {own : List Action} {next : σ}
    (stops : StopsAtProject machine config rest next error before done)
    (compile : ∀ between, AllCompile machine config before next done between →
      AllCompile machine config (entry :: before) state own between) :
    StopsAtProject machine config (entry :: rest) state error (entry :: before) own where
  refused := stops.refused
  project := by
    rcases stops.project with ⟨project, after, rfl, isProject⟩
    exact ⟨project, after, rfl, isProject⟩
  first := List.forall_mem_cons.mpr ⟨notProject, stops.first⟩
  compile := stops.compile.imp compile

end StopsAtProject

theorem map_eq_error_iff {further : Outcome → Outcome} {result : Except RunError Outcome} :
    result.map further = .error error ↔ result = .error error := by
  cases result <;> simp [Except.map]

theorem Course.stops {entries : List Entry} {result : Except RunError Outcome} {after : σ}
    (course : Course machine config entries state done result after)
    (ended : result = .error error) :
    ∃ before, StopsAtProject machine config entries state error before done := by
  -- The error is that of the rest until the project is reached, so the rest comes first.
  induction course with
  | finished => cases ended
  | @passed entry _ _ _ _ _ passed onward induction =>
      rcases induction (map_eq_error_iff.mp ended) with ⟨before, stops⟩
      have notProject : entry.treatment ≠ .make := fun treated => by simp [treated] at passed
      exact ⟨_, stops.onward notProject fun _ =>
        .passedOver (Treatment.isBuildable_eq_false_iff.mp passed)⟩
  | @built entry _ _ _ _ _ _ _ _ build onward induction =>
      rcases induction (map_eq_error_iff.mp ended) with ⟨before, stops⟩
      cases build with
      | source treated asked launched removed =>
          subst asked
          refine ⟨_, stops.onward (by simp [treated]) fun _ => ?_⟩
          exact .compiled treated launched removed
      | project treated asked launched =>
          cases asked.symm.trans (Command.make_eq_error_of_stops stops entry.name _)
  | failed => cases ended
  | stopped treated refused =>
      cases ended
      exact ⟨[], .at_first treated refused⟩

/-! ## What a stopped run did -/

theorem compileCommands_cons (config : Config) (entry : Entry) (rest : List Entry) :
    compileCommands config (entry :: rest) =
      (entry.artifact?.map (Command.compile config entry.name)).toList ++
        compileCommands config rest := by
  rw [compileCommands, List.filterMap_cons]
  cases entry.artifact? <;> rfl

namespace AllCompile

theorem build (compile : AllCompile machine config before state done between)
    (rest : List Entry) :
    let run := buildEntries machine config (before ++ rest) state
    let onward := buildEntries machine config rest between
    deeds run.actions = done ++ deeds onward.actions ∧
      ∀ error, onward.result = .error error → run.result = .error error := by
  induction compile with
  | finished => exact ⟨rfl, fun _ => id⟩
  | passedOver treated compile induction =>
      rcases buildEntries_of_passed machine config
        (Treatment.isBuildable_eq_false_iff.mpr treated) with ⟨events, same⟩
      rw [List.cons_append, same]
      simp only [deeds_append, deeds_notes, List.nil_append]
      exact ⟨induction.1, fun error stopped => map_eq_error_iff.mpr (induction.2 error stopped)⟩
  | @compiled _ _ _ _ _ _ _ _ _ treated launched removed compile induction =>
      rcases Entry.attempt_of_build (.source treated rfl launched removed) with
        ⟨result, own, after⟩
      have built : (Ending.exited 0).fault? config.compiler = none :=
        Ending.fault?_eq_none_iff.mpr rfl
      rw [List.cons_append, buildEntries_cons]
      simp only [result, Command.compile, built, Attempt.ofFault?_none, deeds_append, own, after]
      exact ⟨by rw [induction.1]; rfl, fun error stopped =>
        map_eq_error_iff.mpr (induction.2 error stopped)⟩

theorem launches_eq (compile : AllCompile machine config before state done between) :
    launches done =
      (compileCommands config before).map fun command =>
        ⟨command, config.directory, .exited 0⟩ := by
  induction compile with
  | finished => rfl
  | passedOver treated compile induction =>
      rw [induction, compileCommands_cons]
      rcases treated with treated | treated <;> simp [Entry.artifact?, treated]
  | compiled treated launched removed compile induction =>
      rw [compileCommands_cons, Entry.artifact?_eq_some_iff.mpr treated]
      exact congrArg _ induction

end AllCompile

theorem StopsAtProject.build {entries : List Entry}
    (stops : StopsAtProject machine config entries state error before done) :
    let run := buildEntries machine config entries state
    run.result = .error error ∧ deeds run.actions = done := by
  rcases stops.project with ⟨project, after, rfl, isProject⟩
  rcases stops.compile with ⟨between, compile⟩
  have refused := Command.make_eq_error_of_stops stops project.name machine.environment
  have stopped : buildEntries machine config (project :: after) between =
      ⟨.error error, [.noted (.buildingProject project.name)], between⟩ := by
    rw [buildEntries_cons, Entry.attempt_of_project isProject, refused]
  have built := compile.build (project :: after)
  rw [stopped] at built
  exact ⟨built.2 error rfl, built.1.trans (List.append_nil done)⟩

theorem Plan.stops_of_error {plan : Plan}
    (stopped : (plan.build machine config state).result = .error error) :
    ∃ before, StopsAtProject machine config plan.entries state error before
      (deeds (plan.build machine config state).actions) :=
  (buildEntries_course machine config plan.entries state).stops stopped

/-! ## A directory that cannot be read -/

theorem buildDirectory_unlistable_iff {path : Path} {cause : SystemError} :
    (buildDirectory machine config state).result = .error (.unlistableDirectory path cause) ↔
      path = config.directory ∧ machine.list state config.directory = .error cause := by
  rw [buildDirectory_result, (discover_eq machine config.directory config.platform state).2]
  cases machine.list state config.directory with
  | error reason => simp [eq_comm]
  | ok listing =>
      refine ⟨fun stopped => ?_, nofun⟩
      dsimp only at stopped
      cases failed : (readNames listing).2 with
      | some reason => simp [failed] at stopped
      | none =>
          simp only [failed] at stopped
          rcases Plan.stops_of_error stopped with ⟨before, stops⟩
          rcases stops.refused with ⟨directory, _, _, impossible⟩
          cases impossible

theorem buildDirectory_of_unlistable {cause : SystemError}
    (unlistable : machine.list state config.directory = .error cause) :
    deeds (buildDirectory machine config state).actions = [] := by
  have failed : (discover machine config.directory config.platform state).result =
      .error (.unlistableDirectory config.directory cause) := by
    rw [(discover_eq machine config.directory config.platform state).2, unlistable]
  rcases discover_notes machine config.directory config.platform state with ⟨events, notes⟩
  rw [buildDirectory_eq]
  simp only [failed, notes, deeds_notes]

/-- The build of a plan is stopped by an error exactly if it comes to a project, and no search
path can hold the directory of the compiler. Until then it did nothing but compile the sources
before the project and clean up after each. A directory that cannot be listed is the one
error of its kind, and then nothing is done at all. -/
theorem build_stops_iff (machine : Machine σ) (config : Config) (plan : Plan) (state : σ) :
    (∀ error, (plan.build machine config state).result = .error error ↔
      ∃ before done, StopsAtProject machine config plan.entries state error before done) ∧
    (∀ error before done, StopsAtProject machine config plan.entries state error before done →
      deeds (plan.build machine config state).actions = done ∧
      launches (plan.build machine config state).actions =
        (compileCommands config before).map fun command =>
          ⟨command, config.directory, .exited 0⟩) ∧
    (∀ path cause, (buildDirectory machine config state).result =
        .error (.unlistableDirectory path cause) ↔
      path = config.directory ∧ machine.list state config.directory = .error cause) ∧
    ∀ cause, machine.list state config.directory = .error cause →
      deeds (buildDirectory machine config state).actions = [] := by
  refine ⟨fun error => ⟨fun stopped => ?_, fun stops => ?_⟩, fun error before done stops => ?_,
    fun path cause => buildDirectory_unlistable_iff, fun cause => buildDirectory_of_unlistable⟩
  · rcases Plan.stops_of_error stopped with ⟨before, stops⟩
    exact ⟨before, _, stops⟩
  · rcases stops with ⟨before, done, stops⟩
    exact stops.build.1
  · have same : deeds (plan.build machine config state).actions = done := stops.build.2
    rcases stops.compile with ⟨between, compile⟩
    exact ⟨same, by rw [← launches_deeds, same, compile.launches_eq]⟩

end

/-! A compiler in a directory with a colon compiles the source before a project, and the
project stops the run. A directory that is not there cannot be listed. -/

namespace Rehearsal

def colonCompiler : Scene := .ofText <| utf8 <| "\n".intercalate
  ["directory examples/p", "file examples/a.cx ok", "compiler b:n/cx"]

def colonCompilerConfig : Config where
  compiler := "/rehearsal/b:n/cx"
  extraArguments := ["-O2"]
  directory := utf8 "/rehearsal/examples"
  platform := .linux

def colonCompilerPlan : Plan :=
  ⟨[⟨"a.cx", .compile "a"⟩, ⟨"inputs", .ignored⟩, ⟨"p", .make⟩, ⟨"b.cx", .compile "b"⟩]⟩

theorem colonCompiler_stops :
    let run := colonCompilerPlan.build colonCompiler.machine colonCompilerConfig
      colonCompiler.state
    let compile := Command.compile colonCompilerConfig "a.cx" "a"
    let nowhere := { colonCompilerConfig with directory := utf8 "/rehearsal/nowhere" }
    let unlisted := buildDirectory colonCompiler.machine nowhere colonCompiler.state
    run.result = .error (.unwritableSearchPath (utf8 "/rehearsal/b:n")) ∧
      deeds run.actions = [.launched compile colonCompilerConfig.directory (.exited 0),
        .unlinked (utf8 "/rehearsal/examples/a") (.ok ())] ∧
      launches run.actions = [⟨compile, colonCompilerConfig.directory, .exited 0⟩] ∧
      unlisted.result = .error (.unlistableDirectory nowhere.directory .notFound) ∧
      deeds unlisted.actions = [] := by
  intro run compile nowhere unlisted
  have stops : StopsAtProject colonCompiler.machine colonCompilerConfig
      colonCompilerPlan.entries colonCompiler.state
      (.unwritableSearchPath (utf8 "/rehearsal/b:n"))
      [⟨"a.cx", .compile "a"⟩, ⟨"inputs", .ignored⟩]
      [.launched compile colonCompilerConfig.directory (.exited 0),
        .unlinked (utf8 "/rehearsal/examples/a") (.ok ())] := {
    refused := ⟨utf8 "/rehearsal/b:n", rfl, by decide +kernel, rfl⟩
    project := ⟨_, _, rfl, rfl⟩
    first := by decide
    compile := ⟨_, .compiled rfl (Prod.ext rfl rfl) (Prod.ext rfl rfl)
      (.passedOver (.inr rfl) .finished)⟩ }
  have unlistable : colonCompiler.machine.list colonCompiler.state nowhere.directory =
      .error .notFound := rfl
  have build := build_stops_iff colonCompiler.machine colonCompilerConfig colonCompilerPlan
    colonCompiler.state
  have listing := (build_stops_iff colonCompiler.machine nowhere colonCompilerPlan
    colonCompiler.state).2.2
  exact ⟨(build.1 _).mpr ⟨_, _, stops⟩, (build.2.1 _ _ _ stops).1, (build.2.1 _ _ _ stops).2,
    (listing.1 _ _).mpr ⟨rfl, unlistable⟩, listing.2 _ unlistable⟩

end Rehearsal

end ExampleBuild
