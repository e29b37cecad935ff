import ExampleBuild.Program
import ExampleBuild.Proofs.Build.Success

namespace ExampleBuild

/-! Only builds launch, and only reports print. So what a run launches is told by its build,
and what it prints by its report. -/

open Program

/-! ## What an activity does, from wherever it starts -/

namespace Activity

variable {σ α β : Type}

def DoesOnly (allowed : Action → Prop) (activity : Activity σ α) : Prop :=
  ∀ state, ∀ action ∈ (activity state).actions, allowed action

def LaunchesNothing (activity : Activity σ α) : Prop :=
  activity.DoesOnly fun action => action.launch? = none

def PrintsNothing (activity : Activity σ α) : Prop :=
  activity.DoesOnly fun action => printedOn .output action = none

section

variable {activity : Activity σ α} {allowed : Action → Prop}

theorem LaunchesNothing.launches_eq (quiet : activity.LaunchesNothing) (state : σ) :
    launches (activity state).actions = [] :=
  List.filterMap_eq_nil_iff.mpr (quiet state)

theorem PrintsNothing.outputLines_eq (silent : activity.PrintsNothing) (state : σ) :
    outputLines (activity state).actions = [] :=
  List.filterMap_eq_nil_iff.mpr (silent state)

theorem DoesOnly.pure (result : α) : DoesOnly allowed (pure result : Activity σ α) := by
  intro state action member
  cases member

theorem DoesOnly.bind {first : Activity σ α} {next : α → Activity σ β}
    (before : first.DoesOnly allowed) (after : ∀ result, (next result).DoesOnly allowed) :
    (first >>= next).DoesOnly allowed := by
  intro state action member
  rcases List.mem_append.mp member with earlier | later
  · exact before state action earlier
  · exact after _ _ action later

theorem DoesOnly.act {action : Action} (isAllowed : allowed action) :
    (act action : Activity σ Unit).DoesOnly allowed := by
  intro state other member
  cases List.mem_singleton.mp member
  exact isAllowed

theorem DoesOnly.inOrder {activities : List (Activity σ Unit)}
    (each : ∀ activity ∈ activities, activity.DoesOnly allowed) :
    (inOrder activities).DoesOnly allowed := by
  induction activities with
  | nil => exact .pure ()
  | cons first rest induction =>
      rw [List.forall_mem_cons] at each
      exact .bind each.1 fun _ => induction each.2

theorem DoesOnly.print {stream : Stream} (printed : ∀ line, allowed (.printed stream line))
    (lines : List String) :
    (Activity.inOrder (lines.map (print stream)) : Activity σ Unit).DoesOnly allowed := by
  apply DoesOnly.inOrder
  rw [List.forall_mem_map]
  exact fun line _ => .act (printed line)

end

end Activity

section

variable {σ : Type} {machine : Machine σ} {config : Config}

/-! ## Builds -/

theorem discover_doesOnly {allowed : Action → Prop} (noted : ∀ event, allowed (.noted event))
    (directory : Path) (platform : Platform) :
    (discover machine directory platform).DoesOnly allowed := by
  intro state action member
  rcases discover_notes machine directory platform state with ⟨events, notes⟩
  rw [notes] at member
  rcases List.mem_map.mp member with ⟨event, _, rfl⟩
  exact noted event

theorem Command.perform_printsNothing (command : Command) (directory : Path) :
    (command.perform machine directory).PrintsNothing := by
  refine .bind (.act rfl) fun _ => .bind ?_ fun _ => .pure _
  intro state action member
  cases List.mem_singleton.mp member
  rfl

theorem removeArtifact_printsNothing (path : Path) :
    (removeArtifact machine path).PrintsNothing := by
  refine .bind ?_ fun _ => .act rfl
  intro state action member
  cases List.mem_singleton.mp member
  rfl

theorem Entry.attempt_printsNothing (entry : Entry) :
    (entry.attempt machine config).PrintsNothing := by
  unfold attempt
  cases entry.treatment with
  | excluded => exact .bind (.act rfl) fun _ => .pure _
  | ignored => exact .pure _
  | compile artifact =>
      exact .bind (.act rfl) fun _ => .bind (Command.perform_printsNothing _ _) fun _ =>
        .bind (removeArtifact_printsNothing _) fun _ => .pure _
  | make =>
      refine .bind (.act rfl) fun _ => ?_
      cases Command.make config entry.name machine.environment with
      | error error => exact .pure _
      | ok command => exact .bind (command.perform_printsNothing _) fun _ => .pure _

theorem buildEntries_printsNothing (entries : List Entry) :
    (buildEntries machine config entries).PrintsNothing := by
  induction entries with
  | nil => exact .pure _
  | cons entry rest induction =>
      refine .bind entry.attempt_printsNothing fun attempt => ?_
      cases attempt with
      | skipped | ignored | built => exact .bind induction fun _ => .pure _
      | failed fault => exact .bind (.act rfl) fun _ => .pure _
      | stopped error => exact .pure _

theorem buildDirectory_printsNothing : (buildDirectory machine config).PrintsNothing := by
  refine .bind (discover_doesOnly (fun _ => rfl) _ _) fun discovered => ?_
  cases discovered with
  | error error => exact .pure _
  | ok plan => exact .bind (.act rfl) fun _ => buildEntries_printsNothing plan.entries

/-! ## Build runs -/

def printings (lines : List (Stream × String)) : List Action :=
  lines.map fun line => .printed line.1 line.2

def forOutput (lines : List (Stream × String)) : List String :=
  lines.filterMap fun line => if line.1 = .output then some line.2 else none

@[simp] theorem deeds_printings (lines : List (Stream × String)) :
    deeds (printings lines) = [] := by
  rw [deeds, printings, List.filter_map]
  simp [Function.comp_def, Action.isDeed]

@[simp] theorem launches_printings (lines : List (Stream × String)) :
    launches (printings lines) = [] := by
  rw [launches, printings, List.filterMap_map]
  exact List.filterMap_eq_nil_iff.mpr fun _ _ => rfl

@[simp] theorem outputLines_nil : outputLines [] = [] := rfl

@[simp] theorem outputLines_append (earlier later : List Action) :
    outputLines (earlier ++ later) = outputLines earlier ++ outputLines later :=
  List.filterMap_append ..

@[simp] theorem outputLines_noted (event : Event) (later : List Action) :
    outputLines (.noted event :: later) = outputLines later := rfl

@[simp] theorem outputLines_notes (events : List Event) :
    outputLines (events.map .noted) = [] := by
  rw [outputLines, List.filterMap_map]
  exact List.filterMap_eq_nil_iff.mpr fun _ _ => rfl

@[simp] theorem outputLines_printings (lines : List (Stream × String)) :
    outputLines (printings lines) = forOutput lines := by
  rw [outputLines, printings, List.filterMap_map]
  rfl

@[simp] theorem forOutput_output (lines : List String) :
    forOutput (lines.map fun line => (.output, line)) = lines := by
  rw [forOutput, List.filterMap_map]
  exact List.filterMap_some

@[simp] theorem forOutput_diagnostics (lines : List String) :
    forOutput (lines.map fun line => (.diagnostics, line)) = [] := by
  rw [forOutput, List.filterMap_map]
  exact List.filterMap_eq_nil_iff.mpr fun _ _ => rfl

@[simp] theorem inOrder_printings (lines : List (Stream × String)) (state : σ) :
    Activity.inOrder (lines.map fun line => .print line.1 line.2) state =
      ⟨(), printings lines, state⟩ := by
  rw [printings, ← Activity.inOrder_act, List.map_map]
  rfl

@[simp] theorem inOrder_print (stream : Stream) (lines : List String) (state : σ) :
    Activity.inOrder (lines.map (.print stream)) state =
      ⟨(), printings (lines.map fun line => (stream, line)), state⟩ := by
  rw [← inOrder_printings, List.map_map]
  rfl

namespace BuildRun

def reportLines (environment : Environment) (format : OutputFormat) (verbose : Bool)
    (duration : Duration) (outcome : Outcome) : List (Stream × String) :=
  match format with
  | .json => [(.output, outcome.toJson.indented)]
  | .text => outcomeLines (Style.ofEnvironment environment) verbose duration outcome

theorem perform_eq (format : OutputFormat) (verbose : Bool) (state : σ) :
    perform machine config format verbose state =
      let built := buildDirectory machine config state
      let duration := Duration.ofNanoseconds (machine.clock built.state - machine.clock state)
      match built.result with
      | .error error => ⟨.error ((Problem.ofRunError error).within "Build run failed"),
          built.actions, built.state⟩
      | .ok outcome => ⟨.ok outcome, built.actions ++
          printings (reportLines machine.environment format verbose duration outcome),
          built.state⟩ := by
  rw [perform, Activity.bind_apply, Activity.bind_apply]
  cases came : (buildDirectory machine config state).result with
  | error error => simp [came]
  | ok outcome => cases format <;> simp [came, reportLines, printings]

end BuildRun

/-! ## Dry runs -/

namespace DryRun

theorem showEntries_launchesNothing (style : Style) (environment : Environment)
    (entries : List Entry) :
    (showEntries style config environment entries : Activity σ _).LaunchesNothing := by
  induction entries with
  | nil => exact .pure _
  | cons entry rest induction =>
      rw [showEntries]
      cases commandFor config environment entry with
      | error error => exact .pure _
      | ok command => exact .bind (.print (fun _ => rfl) _) fun _ => induction

theorem showPlan_launchesNothing (style : Style) (environment : Environment) (plan : Plan) :
    (showPlan style config environment plan : Activity σ _).LaunchesNothing := by
  refine .bind (.act rfl) fun _ => .bind (.act rfl) fun _ =>
    .bind (showEntries_launchesNothing style environment plan.entries) fun shown => ?_
  cases shown with
  | error error => exact .pure _
  | ok => exact .bind (.act rfl) fun _ => .bind (.act rfl) fun _ => .pure _

theorem perform_launchesNothing (format : OutputFormat) :
    (perform machine config format).LaunchesNothing := by
  refine .bind (discover_doesOnly (fun _ => rfl) _ _) fun discovered => ?_
  cases discovered with
  | error error => exact .pure _
  | ok plan =>
      cases format with
      | json => exact .bind (.act rfl) fun _ => .pure _
      | text =>
          refine .bind (showPlan_launchesNothing _ _ plan) fun shown => ?_
          cases shown <;> exact .pure _

/-- An entry can be shown unless it has to be built by a command that cannot be written. -/
def CanShow (config : Config) (environment : Environment) (entry : Entry) : Prop :=
  ∃ command, commandFor config environment entry = .ok command

theorem showEntries_ok_iff (style : Style) (environment : Environment) (entries : List Entry)
    (state : σ) :
    ((showEntries style config environment entries : Activity σ _) state).result = .ok () ↔
      ∀ entry ∈ entries, CanShow config environment entry := by
  induction entries generalizing state with
  | nil => simp [showEntries]
  | cons entry rest induction =>
      rw [showEntries, List.forall_mem_cons]
      cases asked : commandFor config environment entry with
      | error error => simp [CanShow, asked]
      | ok command =>
          have canShow : CanShow config environment entry := ⟨command, asked⟩
          simp [induction, canShow]

theorem showPlan_ok_iff (style : Style) (environment : Environment) (plan : Plan) (state : σ) :
    ((showPlan style config environment plan : Activity σ _) state).result = .ok () ↔
      ∀ entry ∈ plan.entries, CanShow config environment entry := by
  rw [← showEntries_ok_iff style environment plan.entries state]
  simp only [showPlan, Activity.bind_apply, Activity.print_apply]
  cases ((showEntries style config environment plan.entries : Activity σ _) state).result <;>
    simp

/-- A plan is discovered and, if it is to be shown as text, every entry of it can be. -/
def Completes (machine : Machine σ) (config : Config) (format : OutputFormat) (state : σ) :
    Prop :=
  ∃ plan, (discover machine config.directory config.platform state).result = .ok plan ∧
    (format = .text → ∀ entry ∈ plan.entries, CanShow config machine.environment entry)

theorem perform_ok_iff (format : OutputFormat) (state : σ) :
    (perform machine config format state).result = .ok () ↔
      Completes machine config format state := by
  rw [perform, Activity.bind_apply, Completes]
  cases (discover machine config.directory config.platform state).result with
  | error error => simp
  | ok plan =>
      simp only [Except.ok.injEq, exists_eq_left']
      cases format with
      | json => simp
      | text =>
          simp only [Activity.bind_apply, forall_const]
          rw [← showPlan_ok_iff (Style.ofEnvironment machine.environment) machine.environment
            plan (discover machine config.directory config.platform state).state]
          cases ((showPlan (Style.ofEnvironment machine.environment) config
            machine.environment plan : Activity σ _) _).result <;>
            simp

end DryRun

end

end ExampleBuild
