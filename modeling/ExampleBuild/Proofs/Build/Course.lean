import ExampleBuild.Build

namespace ExampleBuild

/-! The course of a run is what it does to its machine, told apart from what it notes.
It is a relation on the entries, the deeds and the states, with a rule for each thing
that can happen to an entry, and the run of the entries fulfils it. -/

/-! ## Deeds -/

namespace Action

/-- A deed is done to the machine. Other actions only tell about it. -/
def isDeed : Action → Bool
  | .launched _ _ _ | .unlinked _ _ => true
  | .noted _ | .printed _ _ => false

end Action

def deeds (actions : List Action) : List Action := actions.filter Action.isDeed

@[simp] theorem deeds_nil : deeds [] = [] := rfl

@[simp] theorem deeds_append (earlier later : List Action) :
    deeds (earlier ++ later) = deeds earlier ++ deeds later :=
  List.filter_append ..

@[simp] theorem deeds_noted (event : Event) (later : List Action) :
    deeds (.noted event :: later) = deeds later := rfl

@[simp] theorem deeds_printed (stream : Stream) (line : String) (later : List Action) :
    deeds (.printed stream line :: later) = deeds later := rfl

@[simp] theorem deeds_notes (events : List Event) : deeds (events.map .noted) = [] := by
  rw [deeds, List.filter_map]
  simp [Function.comp_def, Action.isDeed]

/-! ## The build of one entry -/

namespace Entry

/-- The command that builds an entry. An entry that is passed over has none, and neither
has a project whose search path cannot be written. -/
def command? (config : Config) (environment : Environment) (entry : Entry) : Option Command :=
  match entry.treatment with
  | .compile artifact => some (.compile config entry.name artifact)
  | .make => (Command.make config entry.name environment).toOption
  | .excluded | .ignored => none

section

variable {config : Config} {environment : Environment} {entry : Entry}

theorem command?_of_source {artifact : String} (treated : entry.treatment = .compile artifact) :
    entry.command? config environment = some (.compile config entry.name artifact) := by
  rw [command?, treated]

theorem command?_of_project (treated : entry.treatment = .make) :
    entry.command? config environment =
      (Command.make config entry.name environment).toOption := by
  rw [command?, treated]

theorem command?_of_passed (passed : entry.treatment.isBuildable = false) :
    entry.command? config environment = none := by
  rcases Treatment.isBuildable_eq_false_iff.mp passed with treated | treated <;>
    rw [command?, treated]

end

end Entry

/-- What an entry that is passed over adds to the outcome of the others. -/
def Outcome.afterPassing (entry : Entry) : Outcome → Outcome :=
  if entry.treatment = .excluded then .afterSkipping entry.name else .afterIgnoring entry.name

@[simp] theorem Outcome.afterPassing_failed {entry : Entry} {failure : Failure} :
    afterPassing entry (.failed failure) = .failed failure := by
  rw [afterPassing]
  split <;> rfl

namespace Attempt

def goesOn : Attempt → Bool
  | .skipped | .ignored | .built => true
  | .failed _ | .stopped _ => false

end Attempt

section

variable {σ : Type} (machine : Machine σ) (config : Config)

def artifactPath (artifact : String) : Path := config.directory.join (utf8 artifact)

/-- How the build of an entry goes: its process ends, and what a source compiled to is
removed, whatever the end was. -/
inductive BuildOf (entry : Entry) (command : Command) (before : σ) :
    Ending → List Action → σ → Prop
  | source {artifact : String} {ending : Ending} {compiled cleaned : σ}
      {removal : Except SystemError Unit}
      (treated : entry.treatment = .compile artifact)
      (asked : command = .compile config entry.name artifact)
      (launched : machine.launch before command config.directory = (ending, compiled))
      (removed : machine.unlink compiled (artifactPath config artifact) = (removal, cleaned)) :
      BuildOf entry command before ending
        [.launched command config.directory ending,
         .unlinked (artifactPath config artifact) removal] cleaned
  | project {ending : Ending} {made : σ}
      (treated : entry.treatment = .make)
      (asked : Command.make config entry.name machine.environment = .ok command)
      (launched : machine.launch before command config.directory = (ending, made)) :
      BuildOf entry command before ending
        [.launched command config.directory ending] made

inductive Course :
    List Entry → σ → List Action → Except RunError Outcome → σ → Prop
  | finished {state : σ} : Course [] state [] (.ok .nothing) state
  | passed {entry : Entry} {rest : List Entry} {state after : σ} {done : List Action}
      {result : Except RunError Outcome}
      (passed : entry.treatment.isBuildable = false)
      (onward : Course rest state done result after) :
      Course (entry :: rest) state done (result.map (.afterPassing entry)) after
  | built {entry : Entry} {rest : List Entry} {command : Command} {state between after : σ}
      {own done : List Action} {result : Except RunError Outcome}
      (build : BuildOf machine config entry command state (.exited 0) own between)
      (onward : Course rest between done result after) :
      Course (entry :: rest) state (own ++ done)
        (result.map (.afterBuilding entry.name)) after
  | failed {entry : Entry} {rest : List Entry} {command : Command} {state after : σ}
      {own : List Action} {ending : Ending} {fault : Fault}
      (build : BuildOf machine config entry command state ending own after)
      (faulty : ending.fault? command.program = some fault) :
      Course (entry :: rest) state own (.ok (.failed ⟨entry.name, fault, []⟩)) after
  | stopped {entry : Entry} {rest : List Entry} {state : σ} {error : RunError}
      (treated : entry.treatment = .make)
      (refused : Command.make config entry.name machine.environment = .error error) :
      Course (entry :: rest) state [] (.error error) state

end

/-! ## The run fulfils its course -/

section

variable {σ : Type} {machine : Machine σ} {config : Config}

theorem Ending.fault?_eq_none_iff {program : String} {ending : Ending} :
    ending.fault? program = none ↔ ending = .exited 0 := by
  cases ending with
  | exited code =>
      by_cases zero : code = 0 <;> simp [Ending.fault?, zero]
  | killed => simp [Ending.fault?]
  | notStarted cause => simp [Ending.fault?]

namespace Entry

theorem attempt_of_excluded {entry : Entry} (treated : entry.treatment = .excluded)
    (state : σ) :
    entry.attempt machine config state =
      ⟨.skipped, [.noted (.skippingExcluded entry.name config.platform)], state⟩ := by
  rw [attempt, treated]
  rfl

theorem attempt_of_ignored {entry : Entry} (treated : entry.treatment = .ignored)
    (state : σ) : entry.attempt machine config state = ⟨.ignored, [], state⟩ := by
  rw [attempt, treated]
  rfl

theorem attempt_of_passed (machine : Machine σ) (config : Config) {entry : Entry}
    (passed : entry.treatment.isBuildable = false) :
    ∃ (attempt : Attempt) (events : List Event), attempt.goesOn = true ∧
      ∀ state, entry.attempt machine config state = ⟨attempt, events.map .noted, state⟩ := by
  rcases Treatment.isBuildable_eq_false_iff.mp passed with treated | treated
  · exact ⟨.skipped, [.skippingExcluded entry.name config.platform], rfl,
      attempt_of_excluded treated⟩
  · exact ⟨.ignored, [], rfl, attempt_of_ignored treated⟩

theorem attempt_of_source {entry : Entry} {artifact : String}
    (treated : entry.treatment = .compile artifact) (state : σ) :
    entry.attempt machine config state =
      let command := Command.compile config entry.name artifact
      let (ending, compiled) := machine.launch state command config.directory
      let (removal, cleaned) := machine.unlink compiled (artifactPath config artifact)
      ⟨.ofFault? (ending.fault? command.program),
       [.noted (.buildingExample entry.name),
        .noted (.spawning command.program command.arguments config.directory),
        .launched command config.directory ending,
        .unlinked (artifactPath config artifact) removal,
        .noted (removalEvent (artifactPath config artifact) removal)], cleaned⟩ := by
  rw [attempt, treated]
  rfl

theorem attempt_of_project {entry : Entry} (treated : entry.treatment = .make) (state : σ) :
    entry.attempt machine config state =
      match Command.make config entry.name machine.environment with
      | .error error => ⟨.stopped error, [.noted (.buildingProject entry.name)], state⟩
      | .ok command =>
          let (ending, made) := machine.launch state command config.directory
          ⟨.ofFault? (ending.fault? command.program),
           [.noted (.buildingProject entry.name),
            .noted (.spawning command.program command.arguments config.directory),
            .launched command config.directory ending], made⟩ := by
  rw [attempt, treated]
  cases Command.make config entry.name machine.environment <;> rfl

theorem attempt_of_build {entry : Entry} {command : Command} {state after : σ}
    {ending : Ending} {own : List Action}
    (build : BuildOf machine config entry command state ending own after) :
    (entry.attempt machine config state).result =
        .ofFault? (ending.fault? command.program) ∧
      deeds (entry.attempt machine config state).actions = own ∧
      (entry.attempt machine config state).state = after := by
  cases build with
  | source treated asked launched removed =>
      subst asked
      simp only [attempt_of_source treated, launched, removed]
      exact ⟨trivial, rfl, trivial⟩
  | project treated asked launched =>
      simp only [attempt_of_project treated, asked, launched]
      exact ⟨trivial, rfl, trivial⟩

theorem build_cases (machine : Machine σ) (config : Config) (entry : Entry) (state : σ) :
    entry.treatment.isBuildable = false ∨
      (∃ command ending own after,
        BuildOf machine config entry command state ending own after) ∨
      (∃ error, entry.treatment = .make ∧
        Command.make config entry.name machine.environment = .error error) := by
  cases treated : entry.treatment with
  | excluded | ignored => exact .inl rfl
  | compile artifact => exact .inr (.inl ⟨_, _, _, _, .source treated rfl rfl rfl⟩)
  | make =>
      cases asked : Command.make config entry.name machine.environment with
      | ok command => exact .inr (.inl ⟨_, _, _, _, .project treated asked rfl⟩)
      | error error => exact .inr (.inr ⟨error, rfl, rfl⟩)

end Entry

theorem buildEntries_cons (machine : Machine σ) (config : Config) (entry : Entry)
    (rest : List Entry) (state : σ) :
    buildEntries machine config (entry :: rest) state =
      let attempted := entry.attempt machine config state
      let onward := buildEntries machine config rest attempted.state
      match attempted.result with
      | .skipped => ⟨onward.result.map (.afterSkipping entry.name),
          attempted.actions ++ onward.actions, onward.state⟩
      | .ignored => ⟨onward.result.map (.afterIgnoring entry.name),
          attempted.actions ++ onward.actions, onward.state⟩
      | .built => ⟨onward.result.map (.afterBuilding entry.name),
          attempted.actions ++ onward.actions, onward.state⟩
      | .failed fault => ⟨.ok (.failed ⟨entry.name, fault, []⟩),
          attempted.actions ++ [.noted (.buildFailed entry.name fault)], attempted.state⟩
      | .stopped error => ⟨.error error, attempted.actions, attempted.state⟩ := by
  rw [buildEntries, Activity.bind_apply]
  cases came : (entry.attempt machine config state).result <;> simp [came]

theorem buildEntries_of_passed (machine : Machine σ) (config : Config) {entry : Entry}
    (passed : entry.treatment.isBuildable = false) :
    ∃ events : List Event, ∀ rest state,
      buildEntries machine config (entry :: rest) state =
        let onward := buildEntries machine config rest state
        ⟨onward.result.map (.afterPassing entry), events.map .noted ++ onward.actions,
          onward.state⟩ := by
  rcases Treatment.isBuildable_eq_false_iff.mp passed with treated | treated
  · refine ⟨[.skippingExcluded entry.name config.platform], fun rest state => ?_⟩
    rw [buildEntries_cons, Entry.attempt_of_excluded treated, Outcome.afterPassing,
      if_pos treated]
    rfl
  · refine ⟨[], fun rest state => ?_⟩
    rw [buildEntries_cons, Entry.attempt_of_ignored treated, Outcome.afterPassing,
      if_neg (by simp [treated])]
    rfl

/-- The run of a list of entries is a course of them, by its own deeds. -/
theorem buildEntries_course (machine : Machine σ) (config : Config) (entries : List Entry)
    (state : σ) :
    Course machine config entries state
      (deeds (buildEntries machine config entries state).actions)
      (buildEntries machine config entries state).result
      (buildEntries machine config entries state).state := by
  induction entries generalizing state with
  | nil => exact .finished
  | cons entry rest induction =>
      rcases entry.build_cases machine config state with
        passed | ⟨command, ending, own, between, build⟩ | ⟨error, treated, refused⟩
      · rcases buildEntries_of_passed machine config passed with ⟨events, same⟩
        rw [same rest state, deeds_append, deeds_notes]
        exact .passed passed (induction state)
      · rw [buildEntries_cons]
        rcases Entry.attempt_of_build build with ⟨result, done, after⟩
        cases faulty : ending.fault? command.program with
        | none =>
            have success := Ending.fault?_eq_none_iff.mp faulty
            subst success
            simp only [result, after, faulty, Attempt.ofFault?, deeds_append, done]
            exact .built build (induction between)
        | some fault =>
            simp only [result, after, faulty, Attempt.ofFault?, deeds_append, done, deeds_noted,
              deeds_nil, List.append_nil]
            exact .failed build faulty
      · rw [buildEntries_cons]
        simp only [Entry.attempt_of_project treated, refused]
        exact .stopped treated refused

end

end ExampleBuild
