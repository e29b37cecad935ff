import ExampleBuild.Proofs.Build.Cleanup

namespace ExampleBuild

/-! The removal after a compiler goes by a name alone, and takes whatever file stands
there. What was there before is safe from it exactly so far as it cannot be removed, or as
no source is built to that name. -/

section

variable {σ : Type} (folder : Folder σ) (machine : Machine σ) (config : Config)
  (wrote : σ → Command → ByteText → Prop)

namespace Visit

def Writes (visit : Visit σ) (name : ByteText) : Prop :=
  ∃ command, visit.entry.command? config machine.environment = some command ∧
    wrote visit.before command name

def Removes (visit : Visit σ) (name : ByteText) : Prop :=
  ∃ artifact, visit.entry.artifact? = some artifact ∧ utf8 artifact = name ∧
    (visit.removal machine config artifact).1 = .ok ()

def IsRefused (visit : Visit σ) (artifact : String) : Prop :=
  ∃ cause, (visit.removal machine config artifact).1 = .error cause

end Visit

/-- What a run removes was written by the process just before. -/
def CleanupIsConfined (entries : List Entry) (state : σ) : Prop :=
  ∀ visit ∈ visits machine config entries state, ∀ name,
    visit.Removes machine config name → visit.Writes machine config wrote name

/-- What stands at a name before a run, and was not written by it, is there after it. -/
def UnwrittenSurvives (entries : List Entry) (state : σ) : Prop :=
  ∀ name item, folder.item? state name = some item →
    (∀ visit ∈ visits machine config entries state,
      ¬ visit.Writes machine config wrote name) →
    folder.item? (buildEntries machine config entries state).state name = some item

end

section

variable {σ : Type} {folder : Folder σ} {machine : Machine σ} {config : Config}
  {wrote : σ → Command → ByteText → Prop}

/-! ## One visit -/

namespace Visit

variable {visit : Visit σ} {name : ByteText}

theorem not_removes_iff :
    ¬ visit.Removes machine config name ↔
      ∀ artifact, visit.entry.artifact? = some artifact → utf8 artifact = name →
        visit.IsRefused machine config artifact := by
  constructor
  · intro kept artifact compiles named
    cases came : (visit.removal machine config artifact).1 with
    | ok => exact absurd ⟨artifact, compiles, named, came⟩ kept
    | error cause => exact ⟨cause, came⟩
  · intro refused removes
    rcases removes with ⟨artifact, compiles, named, came⟩
    rcases refused artifact compiles named with ⟨cause, failed⟩
    rw [came] at failed
    cases failed

theorem launched_unwritten (covers : folder.Covers machine config.directory wrote)
    (unwritten : ¬ visit.Writes machine config wrote name) :
    folder.item? (visit.launched machine config) name = folder.item? visit.before name := by
  cases asked : visit.entry.command? config machine.environment with
  | none => simp [launched, asked]
  | some command =>
      have notWrote : ¬ wrote visit.before command name := fun wrote =>
        unwritten ⟨command, asked, wrote⟩
      simpa [launched, asked] using covers visit.before command name notWrote

theorem Removes.taken (unlinks : folder.Unlinks machine config.directory)
    (fileNames : ∀ artifact, visit.entry.artifact? = some artifact →
      IsFileName (utf8 artifact))
    (removes : visit.Removes machine config name) :
    ¬ folder.IsClearAt (visit.launched machine config) name ∧
      folder.item? (visit.attempted machine config).state name = none := by
  rcases removes with ⟨artifact, compiles, rfl, came⟩
  rw [after_of_artifact compiles]
  exact unlinks.taken _ _ (fileNames artifact compiles) came

theorem attempted_of_not_removes (unlinks : folder.Unlinks machine config.directory)
    (fileNames : ∀ artifact, visit.entry.artifact? = some artifact →
      IsFileName (utf8 artifact))
    (kept : ¬ visit.Removes machine config name) :
    folder.item? (visit.attempted machine config).state name =
      folder.item? (visit.launched machine config) name := by
  by_cases named : ∃ artifact, visit.entry.artifact? = some artifact ∧ utf8 artifact = name
  · rcases named with ⟨artifact, compiles, rfl⟩
    rcases not_removes_iff.mp kept artifact compiles rfl with ⟨cause, refused⟩
    rw [after_of_artifact compiles]
    exact unlinks.refused _ _ cause (fileNames artifact compiles) refused
  · apply attempted_others unlinks fileNames
    intro artifact compiles same
    exact named ⟨artifact, compiles, same.symm⟩

end Visit

/-! ## All visits -/

variable {entries : List Entry} {state : σ}

theorem cleanupIsConfined_iff (unlinks : folder.Unlinks machine config.directory)
    (covers : folder.Covers machine config.directory wrote)
    (own : HaveOwnArtifacts entries) :
    CleanupIsConfined machine config wrote entries state ↔
      ∀ visit ∈ visits machine config entries state, ∀ artifact,
        visit.entry.artifact? = some artifact →
          visit.Writes machine config wrote (utf8 artifact) ∨
            folder.IsClearAt visit.before (utf8 artifact) ∨
              visit.IsRefused machine config artifact := by
  constructor
  · intro confined visit visited artifact compiles
    by_cases removes : visit.Removes machine config (utf8 artifact)
    · exact .inl (confined visit visited _ removes)
    · exact .inr (.inr (Visit.not_removes_iff.mp removes artifact compiles rfl))
  · intro each visit visited name removed
    rcases removed with ⟨artifact, compiles, rfl, came⟩
    have removes : visit.Removes machine config (utf8 artifact) :=
      ⟨artifact, compiles, rfl, came⟩
    rcases each visit visited artifact compiles with writes | clear | ⟨cause, refused⟩
    · exact writes
    · by_contra unwritten
      apply (removes.taken unlinks (own.ofMember (mem_visits_entries visited))).1
      rwa [Folder.isClearAt_congr (Visit.launched_unwritten covers unwritten)]
    · rw [came] at refused
      cases refused

theorem buildEntries_absent (unlinks : folder.Unlinks machine config.directory)
    (covers : folder.Covers machine config.directory wrote)
    (own : HaveOwnArtifacts entries)
    {name : ByteText} (absent : folder.item? state name = none)
    (unwritten : ∀ visit ∈ visits machine config entries state,
      ¬ visit.Writes machine config wrote name) :
    folder.item? (buildEntries machine config entries state).state name = none := by
  apply buildEntries_preserves (fun now => folder.item? now name = none) absent
  intro visit visited before
  have fileNames := own.ofMember (mem_visits_entries visited)
  have still : folder.item? (visit.launched machine config) name = none :=
    (Visit.launched_unwritten covers (unwritten visit visited)).trans before
  have kept : ¬ visit.Removes machine config name := fun removes =>
    (removes.taken unlinks fileNames).1 (Folder.isClearAt_of_none still)
  rw [Visit.attempted_of_not_removes unlinks fileNames kept, still]

/-- What no process writes is there after a run exactly if no visit removed it. -/
theorem buildEntries_item?_iff (unlinks : folder.Unlinks machine config.directory)
    (covers : folder.Covers machine config.directory wrote)
    (own : HaveOwnArtifacts entries)
    {name : ByteText} {item : folder.Item} (present : folder.item? state name = some item)
    (unwritten : ∀ visit ∈ visits machine config entries state,
      ¬ visit.Writes machine config wrote name) :
    folder.item? (buildEntries machine config entries state).state name = some item ↔
      ∀ visit ∈ visits machine config entries state,
        ¬ visit.Removes machine config name := by
  induction entries generalizing state with
  | nil => simpa [buildEntries, visits] using present
  | cons entry rest induction =>
      rcases Visit.exists_first entry state with ⟨first, rfl, rfl⟩
      have fileNames := own.ofMember List.mem_cons_self
      rw [visits_cons, List.forall_mem_cons] at unwritten ⊢
      rw [buildEntries_state]
      by_cases removes : first.Removes machine config name
      · -- Once removed it stays absent, for no process writes it again.
        have gone := (removes.taken unlinks fileNames).2
        constructor
        · intro survived
          split at survived
          · next goesOn =>
              rw [if_pos goesOn] at unwritten
              have absent := buildEntries_absent unlinks covers own.tail gone unwritten.2
              cases absent.symm.trans survived
          · cases gone.symm.trans survived
        · intro kept
          exact absurd removes kept.1
      · have kept : folder.item? (first.attempted machine config).state name = some item :=
          calc folder.item? (first.attempted machine config).state name
            _ = folder.item? (first.launched machine config) name :=
                Visit.attempted_of_not_removes unlinks fileNames removes
            _ = folder.item? first.before name :=
                Visit.launched_unwritten covers unwritten.1
            _ = some item := present
        split
        · next goesOn =>
            rw [if_pos goesOn] at unwritten
            have onward := induction own.tail kept unwritten.2
            exact onward.trans ⟨fun later => ⟨removes, later⟩, fun both => both.2⟩
        · exact ⟨fun _ => ⟨removes, by simp⟩, fun _ => kept⟩

/-! ## The plan of a directory -/

/-- The removals of a run are confined to what was written exactly if every source that
left its artifact's name alone found no file there, or one that could not be removed. A
file that was there before is kept under the same condition. -/
theorem Plan.cleanup_confined_iff (unlinks : folder.Unlinks machine config.directory)
    (covers : folder.Covers machine config.directory wrote) {platform : Platform} {plan : Plan}
    (discovers : Discovers machine config.directory platform state plan) :
    let run := plan.build machine config state
    let visited := visits machine config plan.entries state
    (∀ path, .unlinked path (.ok ()) ∈ run.actions ↔
      ∃ visit ∈ visited, ∃ name, visit.Removes machine config name ∧
        path = config.directory.join name) ∧
    (CleanupIsConfined machine config wrote plan.entries state ↔
      ∀ visit ∈ visited, ∀ artifact, visit.entry.artifact? = some artifact →
        visit.Writes machine config wrote (utf8 artifact) ∨
          folder.IsClearAt visit.before (utf8 artifact) ∨
            visit.IsRefused machine config artifact) ∧
    (∀ name item, folder.item? state name = some item →
      (∀ visit ∈ visited, ¬ visit.Writes machine config wrote name) →
        (folder.item? run.state name = some item ↔
          ∀ visit ∈ visited, ∀ artifact, visit.entry.artifact? = some artifact →
            utf8 artifact = name → visit.IsRefused machine config artifact)) := by
  have own := discovers.haveOwnArtifacts
  refine ⟨fun path => ?_, cleanupIsConfined_iff unlinks covers own,
    fun name item present unwritten => ?_⟩
  · rw [Plan.build, mem_buildEntries_iff rfl]
    constructor
    · intro unlinked
      rcases unlinked with ⟨visit, visited, action⟩
      rcases Visit.unlinked_mem_iff.mp action with ⟨artifact, compiles, rfl, came⟩
      exact ⟨visit, visited, _, ⟨artifact, compiles, rfl, came.symm⟩, rfl⟩
    · intro removed
      rcases removed with ⟨visit, visited, name, ⟨artifact, compiles, rfl, came⟩, rfl⟩
      exact ⟨visit, visited, Visit.unlinked_mem_iff.mpr ⟨artifact, compiles, rfl, came.symm⟩⟩
  · simp only [← Visit.not_removes_iff]
    exact buildEntries_item?_iff unlinks covers own present unwritten

end

/-! A file that has the name of an artifact, beside a source that does not compile. -/

namespace Rehearsal

def strayFile : State :=
  ⟨⟨[([utf8 "notes.cx"], .file (.text (utf8 "invalid")) false),
    ([utf8 "notes"], .file (.text (utf8 "kept")) false),
    ([utf8 "cx"], .file (.tool .compiler) true)]⟩, []⟩

def strayFileConfig : Config where
  compiler := "/cx"
  extraArguments := []
  directory := [Path.slash]
  platform := .linux

def strayFilePlan : Plan :=
  ⟨[⟨"notes.cx", .compile "notes"⟩, ⟨"notes", .ignored⟩, ⟨"cx", .ignored⟩]⟩

def rootMachine : Machine State := machine ⟨.empty, []⟩

theorem strayFile_discovers :
    Discovers rootMachine strayFileConfig.directory .linux strayFile strayFilePlan where
  discovered := rfl
  listing listing listed := by
    cases listed
    exact ⟨by decide +kernel, by decide +kernel⟩

def strayFileVisit : Visit State := ⟨⟨"notes.cx", .compile "notes"⟩, strayFile⟩

theorem strayFile_visits {visit : Visit State}
    (visited : visit ∈ visits rootMachine strayFileConfig strayFilePlan.entries strayFile) :
    visit = strayFileVisit :=
  List.mem_singleton.mp visited

theorem strayFile_unwritten (name : ByteText) :
    ¬ strayFileVisit.Writes rootMachine strayFileConfig
      (rootFolder.Changes rootMachine strayFileConfig.directory) name := by
  intro writes
  rcases writes with ⟨command, asked, changed⟩
  have own : command = .compile strayFileConfig "notes.cx" "notes" :=
    (Option.some.inj asked).symm
  subst own
  exact changed rfl

theorem strayFile_keeps_compiler :
    rootFolder.item? (strayFilePlan.build rootMachine strayFileConfig strayFile).state
      (utf8 "cx") = some (.file (.tool .compiler) true) := by
  have unlinks : rootFolder.Unlinks rootMachine strayFileConfig.directory :=
    rootFolder_unlinks rfl
  have account := Plan.cleanup_confined_iff unlinks
    (rootFolder.covers_changes rootMachine strayFileConfig.directory) strayFile_discovers
  apply (account.2.2 (utf8 "cx") _ rfl ?_).mpr
  · intro visit visited artifact compiles named
    rw [strayFile_visits visited] at compiles
    cases compiles
    exact absurd named (by decide)
  · intro visit visited
    rw [strayFile_visits visited]
    exact strayFile_unwritten _

/-- What stood at the artifact's name before the run was written by no process, and the
cleanup took it. -/
theorem strayFile_is_lost :
    Discovers rootMachine strayFileConfig.directory .linux strayFile strayFilePlan ∧
      ¬ CleanupIsConfined rootMachine strayFileConfig
        (rootFolder.Changes rootMachine strayFileConfig.directory)
        strayFilePlan.entries strayFile ∧
      ¬ UnwrittenSurvives rootFolder rootMachine strayFileConfig
        (rootFolder.Changes rootMachine strayFileConfig.directory)
        strayFilePlan.entries strayFile := by
  refine ⟨strayFile_discovers, fun confined => ?_, fun survives => ?_⟩
  · have removes : strayFileVisit.Removes rootMachine strayFileConfig (utf8 "notes") :=
      ⟨"notes", rfl, rfl, rfl⟩
    exact strayFile_unwritten _ (confined strayFileVisit List.mem_cons_self _ removes)
  · have kept := survives (utf8 "notes") (.file (.text (utf8 "kept")) false) rfl
      fun visit visited => strayFile_visits visited ▸ strayFile_unwritten _
    cases kept

end Rehearsal

end ExampleBuild
