import ExampleBuild.Proofs.Build.Course
import ExampleBuild.Rehearsal.Scene
import Mathlib.Data.List.Forall2
import Mathlib.Data.List.Infix

namespace ExampleBuild

/-! The outcome of a run gives an account of its launches: which entries were built, in
which order, and which one stopped the run if one did. -/

structure Launch where
  command : Command
  directory : Path
  ending : Ending

namespace Action

def launch? : Action → Option Launch
  | .launched command directory ending => some ⟨command, directory, ending⟩
  | .noted _ | .unlinked _ _ | .printed _ _ => none

end Action

def launches (actions : List Action) : List Launch := actions.filterMap Action.launch?

@[simp] theorem launches_nil : launches [] = [] := rfl

@[simp] theorem launches_append (earlier later : List Action) :
    launches (earlier ++ later) = launches earlier ++ launches later :=
  List.filterMap_append ..

@[simp] theorem launches_noted (event : Event) (later : List Action) :
    launches (.noted event :: later) = launches later := rfl

@[simp] theorem launches_notes (events : List Event) : launches (events.map .noted) = [] := by
  rw [launches, List.filterMap_map]
  exact List.filterMap_eq_nil_iff.mpr fun _ _ => rfl

theorem launches_deeds (actions : List Action) : launches (deeds actions) = launches actions := by
  rw [launches, deeds, List.filterMap_filter]
  apply List.filterMap_congr
  intro action _
  cases action <;> rfl

namespace Launch

def Succeeds (launch : Launch) : Prop := launch.ending = .exited 0

def Builds (config : Config) (environment : Environment) (launch : Launch)
    (entry : Entry) : Prop :=
  entry.command? config environment = some launch.command ∧
    launch.directory = config.directory

end Launch

/-! ## The entries of one treatment -/

def buildableIn (entries : List Entry) : List Entry :=
  entries.filter fun entry => entry.treatment.isBuildable

def excludedIn (entries : List Entry) : List Entry :=
  entries.filter fun entry => entry.treatment = .excluded

def ignoredIn (entries : List Entry) : List Entry :=
  entries.filter fun entry => entry.treatment = .ignored

section

variable (entry : Entry) (rest : List Entry)

@[simp] theorem buildableIn_nil : buildableIn [] = [] := rfl

@[simp] theorem buildableIn_cons : buildableIn (entry :: rest) =
    if entry.treatment.isBuildable then entry :: buildableIn rest else buildableIn rest :=
  List.filter_cons

@[simp] theorem excludedIn_nil : excludedIn [] = [] := rfl

@[simp] theorem excludedIn_cons : excludedIn (entry :: rest) =
    if entry.treatment = .excluded then entry :: excludedIn rest else excludedIn rest := by
  simp [excludedIn, List.filter_cons]

@[simp] theorem ignoredIn_nil : ignoredIn [] = [] := rfl

@[simp] theorem ignoredIn_cons : ignoredIn (entry :: rest) =
    if entry.treatment = .ignored then entry :: ignoredIn rest else ignoredIn rest := by
  simp [ignoredIn, List.filter_cons]

end

theorem perm_of_treatments (entries : List Entry) :
    (buildableIn entries ++ excludedIn entries ++ ignoredIn entries).Perm entries := by
  induction entries with
  | nil => exact .nil
  | cons entry rest induction =>
      have onward := induction.cons entry
      cases treated : entry.treatment with
      | compile | make => simpa [treated] using onward
      | excluded =>
          have moved : (buildableIn rest ++ entry :: excludedIn rest ++ ignoredIn rest).Perm
              (entry :: (buildableIn rest ++ excludedIn rest ++ ignoredIn rest)) :=
            List.perm_middle.append_right (ignoredIn rest)
          simpa [treated] using moved.trans onward
      | ignored =>
          have moved : (buildableIn rest ++ excludedIn rest ++ entry :: ignoredIn rest).Perm
              (entry :: (buildableIn rest ++ excludedIn rest ++ ignoredIn rest)) :=
            List.perm_middle
          simpa [treated] using moved.trans onward

/-! ## The two ways to finish -/

section

variable {σ : Type} {machine : Machine σ} {config : Config}

theorem BuildOf.launches_eq {entry : Entry} {command : Command} {before after : σ}
    {ending : Ending} {own : List Action}
    (build : BuildOf machine config entry command before ending own after) :
    launches own = [⟨command, config.directory, ending⟩] := by
  cases build <;> rfl

theorem BuildOf.command?_eq {entry : Entry} {command : Command} {before after : σ}
    {ending : Ending} {own : List Action}
    (build : BuildOf machine config entry command before ending own after) :
    entry.command? config machine.environment = some command := by
  cases build with
  | source treated asked => rw [Entry.command?_of_source treated, asked]
  | project treated asked => rw [Entry.command?_of_project treated, asked, Except.toOption]

theorem BuildOf.isBuildable {entry : Entry} {command : Command} {before after : σ}
    {ending : Ending} {own : List Action}
    (build : BuildOf machine config entry command before ending own after) :
    entry.treatment.isBuildable = true := by
  cases build with
  | source treated | project treated => simp [treated]

end

structure AllBuilt (config : Config) (environment : Environment) (entries : List Entry)
    (launched : List Launch) (outcome : Outcome) : Prop where
  each : List.Forall₂ (Launch.Builds config environment) launched (buildableIn entries)
  succeeded : ∀ launch ∈ launched, launch.Succeeds
  outcome_eq : outcome = .succeeded ⟨(buildableIn entries).map Entry.name,
    (excludedIn entries).map Entry.name, (ignoredIn entries).map Entry.name⟩

/-- The last launch is the first one that did not succeed, and nothing after it was
built. -/
inductive FailedAt (config : Config) (environment : Environment) (entries : List Entry) :
    List Launch → Outcome → Prop
  | at_entry (before after : List Entry) (earlier : List Launch) {entry : Entry}
      {last : Launch} {fault : Fault}
      (split : buildableIn entries = before ++ entry :: after)
      (each : List.Forall₂ (Launch.Builds config environment) earlier before)
      (succeeded : ∀ launch ∈ earlier, launch.Succeeds)
      (builds : last.Builds config environment entry)
      (faulty : last.ending.fault? last.command.program = some fault) :
      FailedAt config environment entries (earlier ++ [last])
        (.failed ⟨entry.name, fault, before.map Entry.name⟩)

section

variable {config : Config} {environment : Environment} {entry : Entry} {rest : List Entry}
  {launched : List Launch} {outcome : Outcome}

theorem AllBuilt.afterPassing (passed : entry.treatment.isBuildable = false)
    (all : AllBuilt config environment rest launched outcome) :
    AllBuilt config environment (entry :: rest) launched (outcome.afterPassing entry) := by
  rcases all with ⟨each, succeeded, rfl⟩
  refine ⟨by simpa [passed] using each, succeeded, ?_⟩
  rcases Treatment.isBuildable_eq_false_iff.mp passed with treated | treated <;>
    simp [treated, Outcome.afterPassing]

theorem AllBuilt.afterBuilding {launch : Launch} (kind : entry.treatment.isBuildable = true)
    (builds : launch.Builds config environment entry) (succeeds : launch.Succeeds)
    (all : AllBuilt config environment rest launched outcome) :
    AllBuilt config environment (entry :: rest) (launch :: launched)
      (outcome.afterBuilding entry.name) := by
  rcases all with ⟨each, succeeded, rfl⟩
  have notExcluded : entry.treatment ≠ .excluded := fun treated => by
    simp [treated] at kind
  have notIgnored : entry.treatment ≠ .ignored := fun treated => by
    simp [treated] at kind
  refine ⟨by simpa [kind] using ⟨builds, each⟩, ?_, ?_⟩
  · intro other member
    rcases List.mem_cons.mp member with rfl | later
    · exact succeeds
    · exact succeeded other later
  · simp [kind, notExcluded, notIgnored]

theorem FailedAt.afterPassing (passed : entry.treatment.isBuildable = false)
    (fails : FailedAt config environment rest launched outcome) :
    FailedAt config environment (entry :: rest) launched (outcome.afterPassing entry) := by
  rcases fails with ⟨before, after, earlier, split, each, succeeded, builds, faulty⟩
  rw [Outcome.afterPassing_failed]
  exact .at_entry before after earlier (by simpa [passed] using split) each succeeded builds
    faulty

theorem FailedAt.afterBuilding {launch : Launch} (kind : entry.treatment.isBuildable = true)
    (builds : launch.Builds config environment entry) (succeeds : launch.Succeeds)
    (fails : FailedAt config environment rest launched outcome) :
    FailedAt config environment (entry :: rest) (launch :: launched)
      (outcome.afterBuilding entry.name) := by
  rcases fails with ⟨before, after, earlier, split, each, succeeded, lastBuilds, faulty⟩
  refine .at_entry (entry :: before) after (launch :: earlier)
    (by simpa [kind] using split) (.cons builds each) ?_ lastBuilds faulty
  intro other member
  rcases List.mem_cons.mp member with rfl | later
  · exact succeeds
  · exact succeeded other later

end

section

variable {σ : Type} {machine : Machine σ} {config : Config}

/-- A run that finishes either builds everything or fails at one entry. -/
theorem Course.account {entries : List Entry} {state after : σ} {done : List Action}
    {outcome : Outcome}
    (course : Course machine config entries state done (.ok outcome) after) :
    AllBuilt config machine.environment entries (launches done) outcome ∨
      FailedAt config machine.environment entries (launches done) outcome := by
  -- An entry changes the outcome of the rest but makes none of an error, so where the whole
  -- has an outcome the rest has one.
  generalize finished : (Except.ok outcome : Except RunError Outcome) = result at course
  induction course generalizing outcome with
  | finished =>
      cases finished
      exact .inl ⟨.nil, List.forall_mem_nil _, rfl⟩
  | @passed _ _ _ _ _ result passed onward induction =>
      cases result with
      | error error => cases finished
      | ok later =>
          cases finished
          rcases induction rfl with all | fails
          · exact .inl (all.afterPassing passed)
          · exact .inr (fails.afterPassing passed)
  | @built _ _ _ _ _ _ _ _ result build onward induction =>
      cases result with
      | error error => cases finished
      | ok later =>
          cases finished
          rw [launches_append, build.launches_eq]
          rcases induction rfl with all | fails
          · exact .inl (all.afterBuilding build.isBuildable ⟨build.command?_eq, rfl⟩ rfl)
          · exact .inr (fails.afterBuilding build.isBuildable ⟨build.command?_eq, rfl⟩ rfl)
  | @failed _ rest _ _ _ _ _ _ build faulty =>
      cases finished
      rw [build.launches_eq]
      refine .inr (.at_entry [] (buildableIn rest) [] ?_ .nil (by simp)
        ⟨build.command?_eq, rfl⟩ faulty)
      simp [build.isBuildable]
  | stopped treated refused => cases finished

/-! ## The account -/

structure AccountsFor (config : Config) (environment : Environment) (entries : List Entry)
    (launched : List Launch) (outcome : Outcome) : Prop where
  /-- What was launched is the builds of the first entries to be built, each of them once. -/
  in_order : ∃ attempted, attempted <+: buildableIn entries ∧
    List.Forall₂ (Launch.Builds config environment) launched attempted
  success_iff : (∃ summary, outcome = .succeeded summary) ↔
    launched.length = (buildableIn entries).length ∧ ∀ launch ∈ launched, launch.Succeeds
  summary_names : ∀ summary, outcome = .succeeded summary →
    summary = ⟨(buildableIn entries).map Entry.name, (excludedIn entries).map Entry.name,
      (ignoredIn entries).map Entry.name⟩
  summary_complete : ∀ summary, outcome = .succeeded summary →
    (summary.built ++ summary.skipped ++ summary.ignored).Perm (entries.map Entry.name)
  failure_iff : (∃ failure, outcome = .failed failure) ↔
    ∃ earlier last, launched = earlier ++ [last] ∧ (∀ launch ∈ earlier, launch.Succeeds) ∧
      ¬ last.Succeeds
  failure_names : ∀ failure, outcome = .failed failure →
    ∃ before entry after earlier last,
      buildableIn entries = before ++ entry :: after ∧
      launched = earlier ++ [last] ∧ earlier.length = before.length ∧
      last.Builds config environment entry ∧
      failure.entry = entry.name ∧
      last.ending.fault? last.command.program = some failure.fault ∧
      failure.fault ≠ .exited (some 0) ∧
      failure.builtBefore = before.map Entry.name

theorem Ending.fault?_ne_exited_zero {program : String} {ending : Ending} {fault : Fault}
    (faulty : ending.fault? program = some fault) : fault ≠ .exited (some 0) := by
  intro same
  subst same
  cases ending with
  | exited code =>
      by_cases zero : code = 0
      · simp [Ending.fault?, zero] at faulty
      · simp [Ending.fault?, zero] at faulty
  | killed => simp [Ending.fault?] at faulty
  | notStarted cause => simp [Ending.fault?] at faulty

section

variable {config : Config} {environment : Environment} {entries : List Entry}
  {launched : List Launch} {outcome : Outcome}

theorem AllBuilt.accountsFor
    (all : AllBuilt config environment entries launched outcome) :
    AccountsFor config environment entries launched outcome := by
  rcases all with ⟨each, succeeded, rfl⟩
  refine ⟨⟨_, List.prefix_rfl, each⟩, ?_, ?_, ?_, ?_, ?_⟩
  · exact ⟨fun _ => ⟨each.length_eq, succeeded⟩, fun _ => ⟨_, rfl⟩⟩
  · intro summary same
    cases same
    rfl
  · intro summary same
    cases same
    simpa using (perm_of_treatments entries).map Entry.name
  · constructor
    · intro failed
      rcases failed with ⟨failure, impossible⟩
      cases impossible
    · intro stopped
      rcases stopped with ⟨earlier, last, rfl, _, unsuccessful⟩
      exact absurd (succeeded last (by simp)) unsuccessful
  · intro failure impossible
    cases impossible

theorem FailedAt.accountsFor
    (fails : FailedAt config environment entries launched outcome) :
    AccountsFor config environment entries launched outcome := by
  rcases fails with
    @⟨before, after, earlier, entry, last, fault, split, each, succeeded, builds, faulty⟩
  have unsuccessful : ¬ last.Succeeds := by
    intro succeeds
    rw [Ending.fault?_eq_none_iff.mpr succeeds] at faulty
    cases faulty
  have attempted : List.Forall₂ (Launch.Builds config environment) (earlier ++ [last])
      (before ++ [entry]) := List.rel_append each (.cons builds .nil)
  refine ⟨⟨before ++ [entry], ⟨after, by simp [split]⟩, attempted⟩, ?_, ?_, ?_, ?_, ?_⟩
  · constructor
    · intro finished
      rcases finished with ⟨summary, impossible⟩
      cases impossible
    · intro finished
      rcases finished with ⟨_, all⟩
      exact absurd (all last (by simp)) unsuccessful
  · intro summary impossible
    cases impossible
  · intro summary impossible
    cases impossible
  · exact ⟨fun _ => ⟨earlier, last, rfl, succeeded, unsuccessful⟩, fun _ => ⟨_, rfl⟩⟩
  · intro failure same
    cases same
    exact ⟨before, entry, after, earlier, last, split, rfl, each.length_eq, builds, rfl,
      faulty, Ending.fault?_ne_exited_zero faulty, rfl⟩

end

/-- Whatever the processes and the removals of a run come to, the outcome accounts for
what was launched. -/
theorem Plan.build_accountsFor_launches (machine : Machine σ) (config : Config) (plan : Plan)
    (state : σ) {outcome : Outcome}
    (finished : (plan.build machine config state).result = .ok outcome) :
    AccountsFor config machine.environment plan.entries
      (launches (plan.build machine config state).actions) outcome := by
  have course := buildEntries_course machine config plan.entries state
  have result : (buildEntries machine config plan.entries state).result = .ok outcome := finished
  rw [result] at course
  have launched : launches (plan.build machine config state).actions =
      launches (deeds (buildEntries machine config plan.entries state).actions) :=
    (launches_deeds _).symm
  rw [launched]
  rcases course.account with all | fails
  · exact all.accountsFor
  · exact fails.accountsFor

end

/-! A project that cannot be made stops a run between two sources, after items of every
other treatment. -/

namespace Rehearsal

def stoppedProject : Scene := .ofText <| utf8 <| "\n".intercalate
  ["directory examples/p", "file examples/a.cx ok", "file examples/b.cx ok",
   "file examples/p/fail 3", "compiler bin/cx", "make bin/make",
   "variable PATH /rehearsal/bin"]

def stoppedProjectConfig : Config where
  compiler := "/rehearsal/bin/cx"
  extraArguments := ["-O2"]
  directory := utf8 "/rehearsal/examples"
  platform := .windows

def stoppedProjectPlan : Plan :=
  ⟨[⟨"a.cx", .compile "a.exe"⟩, ⟨"tree.cx", .excluded⟩, ⟨"inputs", .ignored⟩, ⟨"p", .make⟩,
    ⟨"b.cx", .compile "b.exe"⟩]⟩

theorem stoppedProject_accountsFor_launches :
    let run := stoppedProjectPlan.build stoppedProject.machine stoppedProjectConfig
      stoppedProject.state
    run.result = .ok (.failed ⟨"p", .exited (some 3), ["a.cx"]⟩) ∧
      AccountsFor stoppedProjectConfig stoppedProject.machine.environment
        stoppedProjectPlan.entries
        (launches run.actions) (.failed ⟨"p", .exited (some 3), ["a.cx"]⟩) :=
  ⟨rfl, Plan.build_accountsFor_launches _ _ _ _ rfl⟩

end Rehearsal

end ExampleBuild
