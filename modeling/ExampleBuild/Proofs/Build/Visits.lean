import ExampleBuild.Proofs.Build.Course
import ExampleBuild.Proofs.Entry.Artifacts

namespace ExampleBuild

/-! A run visits its entries one after the other, until one of them ends it. What holds of
the files after a run is shown by one step for a visit and an induction on the visits. -/

structure Visit (σ : Type) where
  entry : Entry
  before : σ

section

variable {σ : Type} (machine : Machine σ) (config : Config)

def visits : List Entry → σ → List (Visit σ)
  | [], _ => []
  | entry :: rest, state =>
      let attempted := entry.attempt machine config state
      ⟨entry, state⟩ :: if attempted.result.goesOn then visits rest attempted.state else []

namespace Visit

def attempted (visit : Visit σ) : Performed σ Attempt :=
  visit.entry.attempt machine config visit.before

def launched (visit : Visit σ) : σ :=
  match visit.entry.command? config machine.environment with
  | none => visit.before
  | some command => (machine.launch visit.before command config.directory).2

def removal (visit : Visit σ) (artifact : String) : Except SystemError Unit × σ :=
  machine.unlink (visit.launched machine config) (artifactPath config artifact)

end Visit

/-! ## One visit -/

namespace Visit

variable {machine config}

theorem after_of_artifact {visit : Visit σ} {artifact : String}
    (compiles : visit.entry.artifact? = some artifact) :
    (visit.attempted machine config).state = (visit.removal machine config artifact).2 := by
  have treated := Entry.artifact?_eq_some_iff.mp compiles
  rw [attempted, removal, launched, Entry.attempt_of_source treated,
    Entry.command?_of_source treated]

theorem after_of_no_artifact {visit : Visit σ} (compiles : visit.entry.artifact? = none) :
    (visit.attempted machine config).state = visit.launched machine config := by
  cases treated : visit.entry.treatment with
  | compile artifact => simp [Entry.artifact?, treated] at compiles
  | excluded | ignored =>
      have passed : visit.entry.treatment.isBuildable = false := by simp [treated]
      rcases Entry.attempt_of_passed machine config passed with ⟨attempt, events, -, came⟩
      rw [attempted, launched, came, Entry.command?_of_passed passed]
  | make =>
      rw [attempted, launched, Entry.attempt_of_project treated,
        Entry.command?_of_project treated]
      cases Command.make config visit.entry.name machine.environment <;> rfl

theorem unlinked_mem_iff {visit : Visit σ} {path : Path} {result : Except SystemError Unit} :
    .unlinked path result ∈ (visit.attempted machine config).actions ↔
      ∃ artifact, visit.entry.artifact? = some artifact ∧ path = artifactPath config artifact ∧
        result = (visit.removal machine config artifact).1 := by
  cases treated : visit.entry.treatment with
  | compile artifact =>
      simp [attempted, removal, launched, Entry.attempt_of_source treated,
        Entry.command?_of_source treated, Entry.artifact?, treated]
  | excluded | ignored =>
      have passed : visit.entry.treatment.isBuildable = false := by simp [treated]
      rcases Entry.attempt_of_passed machine config passed with ⟨attempt, events, -, came⟩
      simp [attempted, came, Entry.artifact?, treated]
  | make =>
      rw [attempted, Entry.attempt_of_project treated]
      cases Command.make config visit.entry.name machine.environment <;>
        simp [Entry.artifact?, treated]

private theorem asked_iff (asked command : Command) (expected directory : Path)
    (ending : Ending) (answer : Command → Ending) :
    (command = asked ∧ directory = expected ∧ ending = answer asked) ↔
      (asked = command ∧ directory = expected ∧ ending = answer command) := by
  constructor
  · intro launched
    rcases launched with ⟨rfl, same⟩
    exact ⟨rfl, same⟩
  · intro launched
    rcases launched with ⟨rfl, same⟩
    exact ⟨rfl, same⟩

theorem launched_mem_iff {visit : Visit σ} {command : Command} {directory : Path}
    {ending : Ending} :
    .launched command directory ending ∈ (visit.attempted machine config).actions ↔
      visit.entry.command? config machine.environment = some command ∧
        directory = config.directory ∧
        ending = (machine.launch visit.before command config.directory).1 := by
  have answered (asked : Command) := asked_iff asked command config.directory directory ending
    fun command => (machine.launch visit.before command config.directory).1
  cases treated : visit.entry.treatment with
  | compile artifact =>
      simp [attempted, Entry.attempt_of_source treated, Entry.command?_of_source treated, answered]
  | excluded | ignored =>
      have passed : visit.entry.treatment.isBuildable = false := by simp [treated]
      rcases Entry.attempt_of_passed machine config passed with ⟨attempt, events, -, came⟩
      simp [attempted, came, Entry.command?_of_passed passed]
  | make =>
      rw [attempted, Entry.attempt_of_project treated, Entry.command?_of_project treated]
      cases Command.make config visit.entry.name machine.environment with
      | error error => simp [Except.toOption]
      | ok made => simp [Except.toOption, answered]

end Visit

/-! ## All visits -/

variable {machine config}

theorem visits_cons (first : Visit σ) (rest : List Entry) :
    visits machine config (first.entry :: rest) first.before =
      first :: if (first.attempted machine config).result.goesOn then
        visits machine config rest (first.attempted machine config).state else [] := rfl

theorem Visit.exists_first (entry : Entry) (state : σ) :
    ∃ first : Visit σ, first.entry = entry ∧ first.before = state :=
  ⟨⟨entry, state⟩, rfl, rfl⟩

theorem mem_visits_entries {entries : List Entry} {state : σ} {visit : Visit σ}
    (visited : visit ∈ visits machine config entries state) : visit.entry ∈ entries := by
  induction entries generalizing state with
  | nil => cases visited
  | cons entry rest induction =>
      rcases List.mem_cons.mp visited with rfl | later
      · exact List.mem_cons_self
      · split at later
        · exact List.mem_cons_of_mem _ (induction later)
        · cases later

theorem mem_buildEntries_iff {entries : List Entry} {state : σ} {action : Action}
    (deed : action.isDeed = true) :
    action ∈ (buildEntries machine config entries state).actions ↔
      ∃ visit ∈ visits machine config entries state,
        action ∈ (visit.attempted machine config).actions := by
  induction entries generalizing state with
  | nil => simp [buildEntries, visits]
  | cons entry rest induction =>
      have notNoted (event : Event) : action ≠ .noted event := by
        intro same
        subst same
        cases deed
      rw [buildEntries_cons, visits]
      cases came : (entry.attempt machine config state).result with
      | skipped | ignored | built => simp [came, Attempt.goesOn, induction, Visit.attempted]
      | failed fault => simp [came, Attempt.goesOn, Visit.attempted, notNoted]
      | stopped error => simp [came, Attempt.goesOn, Visit.attempted]

theorem buildEntries_state (first : Visit σ) (rest : List Entry) :
    (buildEntries machine config (first.entry :: rest) first.before).state =
      if (first.attempted machine config).result.goesOn then
        (buildEntries machine config rest (first.attempted machine config).state).state
      else (first.attempted machine config).state := by
  rw [buildEntries_cons]
  cases came : (first.entry.attempt machine config first.before).result <;>
    simp [came, Attempt.goesOn, Visit.attempted]

/-- What every visit preserves, the run preserves. -/
theorem buildEntries_preserves (holds : σ → Prop) {entries : List Entry} {state : σ}
    (initially : holds state)
    (preserved : ∀ visit ∈ visits machine config entries state,
      holds visit.before → holds (visit.attempted machine config).state) :
    holds (buildEntries machine config entries state).state := by
  induction entries generalizing state with
  | nil => exact initially
  | cons entry rest induction =>
      rcases Visit.exists_first entry state with ⟨first, rfl, rfl⟩
      rw [visits_cons] at preserved
      rw [buildEntries_state]
      have between := preserved first List.mem_cons_self initially
      split
      · next goesOn =>
          rw [if_pos goesOn] at preserved
          exact induction between fun visit later =>
            preserved visit (List.mem_cons_of_mem _ later)
      · exact between

end

end ExampleBuild
