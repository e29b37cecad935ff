import ExampleBuild.Proofs.Build.Cleanup
import ExampleBuild.Proofs.Build.Directory

namespace ExampleBuild

/-! Where nothing stood at the artifacts before, every build leaves its directory as it was.
So what a run does depends on the content that it starts from, and a second run does it
again. -/

/-! ## Content -/

namespace Folder

variable {σ : Type} (folder : Folder σ) (machine : Machine σ)

def Same (left right : σ) : Prop :=
  ∀ name, folder.item? left name = folder.item? right name

/-- Tools that know nothing but their command and the folder, where a compiler leaves at most
a file at its artifact's name and everything else is left alone. -/
structure RepeatableTools (config : Config) : Prop where
  tidy : folder.TidyTools machine config
  output : ∀ state source artifact item,
    folder.item? state (utf8 artifact) = none →
      folder.item? (machine.launch state (.compile config source artifact)
        config.directory).2 (utf8 artifact) = some item → folder.isDirectory item = false
  ending : ∀ left right command, folder.Same left right →
    (machine.launch left command config.directory).1 =
      (machine.launch right command config.directory).1

structure IsFreshFor (state : σ) (entries : List Entry) : Prop where
  fileNames : ∀ artifact ∈ artifactsOf entries, IsFileName (utf8 artifact)
  absent : ∀ artifact ∈ artifactsOf entries, folder.item? state (utf8 artifact) = none

section

variable {folder machine} {directory : Path} {left middle right state : σ}

theorem Same.refl (state : σ) : folder.Same state state := fun _ => rfl

theorem Same.symm (same : folder.Same left right) : folder.Same right left :=
  fun name => (same name).symm

theorem Same.trans (first : folder.Same left middle) (second : folder.Same middle right) :
    folder.Same left right :=
  fun name => (first name).trans (second name)

theorem IsFreshFor.ofSame {entries : List Entry} (fresh : folder.IsFreshFor right entries)
    (same : folder.Same left right) : folder.IsFreshFor left entries where
  fileNames := fresh.fileNames
  absent artifact member := (same _).trans (fresh.absent artifact member)

theorem IsFreshFor.tail {entry : Entry} {rest : List Entry}
    (fresh : folder.IsFreshFor state (entry :: rest)) : folder.IsFreshFor state rest := by
  have after : artifactsOf rest ⊆ artifactsOf (entry :: rest) :=
    ((List.sublist_cons_self entry rest).filterMap _).subset
  exact ⟨fun artifact member => fresh.fileNames artifact (after member),
    fun artifact member => fresh.absent artifact (after member)⟩

theorem Unlinks.absent_after (unlinks : folder.Unlinks machine directory)
    (canUnlink : folder.CanUnlink machine directory) {name : ByteText}
    (fileName : IsFileName name)
    (noDirectory : ∀ item, folder.item? state name = some item →
      folder.isDirectory item = false) :
    folder.item? (machine.unlink state (directory.join name)).2 name = none := by
  cases came : (machine.unlink state (directory.join name)).1 with
  | ok => exact (unlinks.taken state name fileName came).2
  | error cause =>
      rw [unlinks.refused state name cause fileName came]
      cases found : folder.item? state name with
      | none => rfl
      | some item =>
          have notClear : ¬ folder.IsClearAt state name := by
            rw [isClearAt_iff_of_some found, noDirectory item found]
            exact Bool.false_ne_true
          rw [canUnlink state name fileName notClear] at came
          cases came

end

end Folder

/-! ## One build -/

section

variable {σ : Type} {folder : Folder σ} {machine : Machine σ} {config : Config}

theorem Visit.launched_of_artifact {visit : Visit σ} {artifact : String}
    (compiles : visit.entry.artifact? = some artifact) :
    visit.launched machine config =
      (machine.launch visit.before (.compile config visit.entry.name artifact)
        config.directory).2 := by
  have treated := Entry.artifact?_eq_some_iff.mp compiles
  rw [launched, Entry.command?_of_source treated]

theorem Visit.attempted_restores (unlinks : folder.Unlinks machine config.directory)
    (canUnlink : folder.CanUnlink machine config.directory)
    (tools : folder.RepeatableTools machine config) {visit : Visit σ} {entries : List Entry}
    (member : visit.entry ∈ entries) (fresh : folder.IsFreshFor visit.before entries) :
    folder.Same (visit.attempted machine config).state visit.before := by
  have ofEntries (artifact : String) (compiles : visit.entry.artifact? = some artifact) :
      artifact ∈ artifactsOf entries :=
    mem_artifactsOf member compiles
  intro name
  by_cases own : ∃ artifact, visit.entry.artifact? = some artifact ∧ name = utf8 artifact
  · rcases own with ⟨artifact, compiles, rfl⟩
    have absent := fresh.absent artifact (ofEntries artifact compiles)
    rw [absent, after_of_artifact compiles]
    apply unlinks.absent_after canUnlink (fresh.fileNames artifact (ofEntries artifact compiles))
    intro item found
    rw [launched_of_artifact compiles] at found
    exact tools.output visit.before visit.entry.name artifact item absent found
  · have other (artifact : String) (compiles : visit.entry.artifact? = some artifact) :
        name ≠ utf8 artifact := fun same => own ⟨artifact, compiles, same⟩
    calc folder.item? (visit.attempted machine config).state name
      _ = folder.item? (visit.launched machine config) name :=
          attempted_others unlinks
            (fun artifact compiles => fresh.fileNames artifact (ofEntries artifact compiles)) other
      _ = folder.item? visit.before name := launched_tidy tools.tidy other

theorem Entry.attempt_congr (tools : folder.RepeatableTools machine config) (entry : Entry)
    {left right : σ} (same : folder.Same left right) :
    (entry.attempt machine config left).result = (entry.attempt machine config right).result ∧
      launches (entry.attempt machine config left).actions =
        launches (entry.attempt machine config right).actions := by
  cases treated : entry.treatment with
  | excluded | ignored =>
      have passed : entry.treatment.isBuildable = false := by simp [treated]
      rcases attempt_of_passed machine config passed with ⟨attempt, events, -, came⟩
      rw [came left, came right]
      exact ⟨rfl, rfl⟩
  | compile artifact =>
      have ending := tools.ending left right (.compile config entry.name artifact) same
      simp only [attempt_of_source treated, ending]
      exact ⟨trivial, rfl⟩
  | make =>
      simp only [attempt_of_project treated]
      cases asked : Command.make config entry.name machine.environment with
      | error error => exact ⟨rfl, rfl⟩
      | ok command =>
          have ending := tools.ending left right command same
          simp only [ending, and_self]

/-! ## All builds -/

theorem buildEntries_restores (unlinks : folder.Unlinks machine config.directory)
    (canUnlink : folder.CanUnlink machine config.directory)
    (tools : folder.RepeatableTools machine config) {entries : List Entry} {state : σ}
    (fresh : folder.IsFreshFor state entries) :
    folder.Same (buildEntries machine config entries state).state state := by
  apply buildEntries_preserves (fun now => folder.Same now state) (Folder.Same.refl state)
  intro visit visited same
  exact (Visit.attempted_restores unlinks canUnlink tools (mem_visits_entries visited)
    (fresh.ofSame same)).trans same

theorem buildEntries_congr (unlinks : folder.Unlinks machine config.directory)
    (canUnlink : folder.CanUnlink machine config.directory)
    (tools : folder.RepeatableTools machine config) {entries : List Entry} {left right : σ}
    (fresh : folder.IsFreshFor right entries) (same : folder.Same left right) :
    (buildEntries machine config entries left).result =
        (buildEntries machine config entries right).result ∧
      launches (buildEntries machine config entries left).actions =
        launches (buildEntries machine config entries right).actions := by
  induction entries generalizing left right with
  | nil => exact ⟨rfl, rfl⟩
  | cons entry rest induction =>
      rcases Entry.attempt_congr tools entry same with ⟨result, launched⟩
      have restored (before : σ) (fresh : folder.IsFreshFor before (entry :: rest)) :
          folder.Same (entry.attempt machine config before).state before := by
        let visit : Visit σ := ⟨entry, before⟩
        have first : visit.entry ∈ entry :: rest := List.mem_cons_self
        exact Visit.attempted_restores unlinks canUnlink tools first fresh
      -- Both attempts restore where they started, so the rest starts from the same content.
      have leftAfter := restored left (fresh.ofSame same)
      have rightAfter := restored right fresh
      have between := leftAfter.trans (same.trans rightAfter.symm)
      rcases induction (fresh.tail.ofSame rightAfter) between with ⟨later, laterLaunched⟩
      simp only [buildEntries_cons, result]
      cases (entry.attempt machine config right).result <;>
        simp only [launches_append, launched, later, laterLaunched, and_self]

/-! ## Two runs of a directory -/

theorem discover_congr (machine : Machine σ) (directory : Path) (platform : Platform)
    {left right : σ} (listed : machine.list left directory = machine.list right directory) :
    (discover machine directory platform left).result =
      (discover machine directory platform right).result := by
  rw [(discover_eq machine directory platform left).2, listed,
    (discover_eq machine directory platform right).2]

/-- However a run ends, its directory is as it was before, and a second run that finds the
names in the same order does what the first one did. The names `.` and `..` lead to
directories, so a source whose artifact they would be is none to which this applies. -/
theorem buildDirectory_repeats (unlinks : folder.Unlinks machine config.directory)
    (canUnlink : folder.CanUnlink machine config.directory)
    (tools : folder.RepeatableTools machine config) {state : σ}
    (lists : ∀ listing, machine.list state config.directory = .ok listing →
      IsListing (readNames listing).1)
    (absent : ∀ plan,
      (discover machine config.directory config.platform state).result = .ok plan →
        ∀ artifact ∈ artifactsOf plan.entries, folder.item? state (utf8 artifact) = none) :
    let run := buildDirectory machine config state
    let again := buildDirectory machine config run.state
    folder.Same run.state state ∧
      (machine.list run.state config.directory = machine.list state config.directory →
        launches again.actions = launches run.actions ∧ again.result = run.result) := by
  intro run again
  cases found : (discover machine config.directory config.platform state).result with
  | error error =>
      have unchanged : run.state = state := by
        simp only [run, buildDirectory_eq, found]
      have repeated : again = run := by
        simp only [again, unchanged, run]
      rw [repeated, unchanged]
      exact ⟨.refl state, fun _ => ⟨rfl, rfl⟩⟩
  | ok plan =>
      have discovers : Discovers machine config.directory config.platform state plan :=
        ⟨found, lists⟩
      have fresh : folder.IsFreshFor state plan.entries :=
        ⟨discovers.haveOwnArtifacts.fileNames, absent plan found⟩
      have ended : run.state = (buildEntries machine config plan.entries state).state := by
        simp only [run, buildDirectory_eq, found, Plan.build]
      have restored : folder.Same run.state state :=
        ended ▸ buildEntries_restores unlinks canUnlink tools fresh
      refine ⟨restored, fun listed => ?_⟩
      have foundAgain := (discover_congr machine _ config.platform listed).trans found
      rcases buildEntries_congr unlinks canUnlink tools fresh restored with
        ⟨result, launched⟩
      constructor
      · simp only [again, launches_buildDirectory, foundAgain, run, found]
        exact launched
      · simp only [again, buildDirectory_result, foundAgain, run, found]
        exact result

end

/-! Two sources and a project, built twice by tidy tools. -/

namespace Rehearsal

theorem tidyMachine_repeatableTools (config : Config) :
    rootFolder.RepeatableTools tidyMachine config where
  tidy := tidyMachine_tidyTools config
  output state source artifact item absent present := by
    have launched :
        (tidyMachine.launch state (.compile config source artifact) config.directory).2 =
          { state with tree := state.tree.put [utf8 artifact] (.file (.text []) true) } := rfl
    have noDots : ¬ (utf8 artifact = [Path.dot] || utf8 artifact = parentName) = true := by
      intro dots
      simp [rootFolder, dots] at absent
    rw [launched] at present
    by_cases nameable : canBeNamed (utf8 artifact) = true
    · simp [rootFolder, noDots, nameable, FileTree.item?_put] at present
      cases present
      rfl
    · simp [rootFolder, noDots, nameable] at present
  ending left right command _ := by
    have exited (state : State) :
        (tidyMachine.launch state command config.directory).1 = .exited 0 := by
      unfold tidyMachine tidyLaunch
      dsimp only
      split <;> rfl
    rw [exited left, exited right]

theorem twoSources_absent :
    ∀ artifact ∈ artifactsOf twoSourcesPlan.entries,
      rootFolder.item? twoSources (utf8 artifact) = none := by
  have artifacts : artifactsOf twoSourcesPlan.entries = ["a", "b"] := rfl
  rw [artifacts]
  exact List.forall_mem_cons.mpr ⟨rfl, List.forall_mem_singleton.mpr rfl⟩

theorem twoSources_repeat :
    let run := buildDirectory tidyMachine twoSourcesConfig twoSources
    let again := buildDirectory tidyMachine twoSourcesConfig run.state
    rootFolder.Same run.state twoSources ∧
      launches again.actions = launches run.actions ∧ again.result = run.result := by
  have repeats := buildDirectory_repeats (rootFolder_unlinks rfl) (rootFolder_canUnlink rfl)
    (tidyMachine_repeatableTools twoSourcesConfig) twoSources_discovers.listing
    (fun plan found => by
      cases twoSources_discovers.discovered.symm.trans found
      exact twoSources_absent)
  exact ⟨repeats.1, repeats.2 rfl⟩

end Rehearsal

end ExampleBuild
