import ExampleBuild.Proofs.Build.Restoration
import ExampleBuild.Proofs.Build.Success
import ExampleBuild.Proofs.Entry.Commands

namespace ExampleBuild

/-! As long as every build leaves its directory as it was, each entry is built as if it were
the only one. So the order of the entries decides at which of them a run stops, but not
whether it does. -/

section

variable {σ : Type} (machine : Machine σ) (config : Config) (state : σ)

def FailsAlone (entry : Entry) (fault : Fault) : Prop :=
  (Plan.build machine config ⟨[entry]⟩ state).result = .ok (.failed ⟨entry.name, fault, []⟩)

/-- What a run comes to is what its entries come to alone: it succeeds, or it stops at the
first of them that fails. -/
inductive EndsAsAlone : List Entry → Except RunError Outcome → Prop
  | succeeds {entries : List Entry} {summary : Summary}
      (sound : ∀ entry ∈ entries, ∀ fault, ¬ FailsAlone machine config state entry fault) :
      EndsAsAlone entries (.ok (.succeeded summary))
  | fails (before after : List Entry) {entry : Entry} {fault : Fault}
      (sound : ∀ earlier ∈ before, ∀ fault, ¬ FailsAlone machine config state earlier fault)
      (alone : FailsAlone machine config state entry fault) :
      EndsAsAlone (before ++ entry :: after)
        (.ok (.failed ⟨entry.name, fault, (buildableIn before).map Entry.name⟩))

end

section

variable {σ : Type} {machine : Machine σ} {config : Config} {state : σ} {entry : Entry}
  {rest : List Entry} {result : Except RunError Outcome}

theorem failsAlone_iff {fault : Fault} :
    FailsAlone machine config state entry fault ↔
      (entry.attempt machine config state).result = .failed fault := by
  rw [FailsAlone, Plan.build, buildEntries_cons]
  cases came : (entry.attempt machine config state).result <;>
    simp [came, buildEntries, Except.map, Outcome.nothing]

/-! ## One entry before the others -/

structure Prolongs (entry : Entry) (further : Outcome → Outcome) : Prop where
  success : ∀ summary, ∃ next, further (.succeeded summary) = .succeeded next
  failure : ∀ before name fault,
    further (.failed ⟨name, fault, (buildableIn before).map Entry.name⟩) =
      .failed ⟨name, fault, (buildableIn (entry :: before)).map Entry.name⟩

theorem prolongs_afterPassing (passed : entry.treatment.isBuildable = false) :
    Prolongs entry (.afterPassing entry) where
  success summary := by
    rw [Outcome.afterPassing]
    split
    · exact ⟨_, Outcome.afterSkipping_succeeded⟩
    · exact ⟨_, Outcome.afterIgnoring_succeeded⟩
  failure _ _ _ := by simp [passed]

theorem prolongs_afterBuilding (kind : entry.treatment.isBuildable = true) :
    Prolongs entry (.afterBuilding entry.name) where
  success _ := ⟨_, rfl⟩
  failure _ _ _ := by simp [kind]

theorem buildEntries_cons_cases (writable : unwritableDirectory? config.compiler = none) :
    (∃ fault, (entry.attempt machine config state).result = .failed fault ∧
        (buildEntries machine config (entry :: rest) state).result =
          .ok (.failed ⟨entry.name, fault, []⟩)) ∨
      (∀ fault, (entry.attempt machine config state).result ≠ .failed fault) ∧
        ∃ further, Prolongs entry further ∧
          (buildEntries machine config (entry :: rest) state).result =
            (buildEntries machine config rest
              (entry.attempt machine config state).state).result.map further := by
  rcases entry.build_cases machine config state with
    passed | ⟨command, ending, own, between, build⟩ | ⟨error, treated, refused⟩
  · rcases Entry.attempt_of_passed machine config passed with ⟨attempt, events, goesOn, attempted⟩
    rcases buildEntries_of_passed machine config passed with ⟨noted, same⟩
    rw [attempted state, same rest state]
    refine .inr ⟨fun fault failed => ?_, _, prolongs_afterPassing passed, rfl⟩
    subst failed
    cases goesOn
  · simp only [buildEntries_cons, (Entry.attempt_of_build build).1]
    cases ending.fault? command.program with
    | none => exact .inr ⟨nofun, _, prolongs_afterBuilding build.isBuildable, rfl⟩
    | some fault => exact .inl ⟨fault, rfl, rfl⟩
  · rcases Command.make_eq_error_iff.mp refused with ⟨directory, unwritable, _⟩
    cases writable.symm.trans unwritable

namespace EndsAsAlone

theorem onward {further : Outcome → Outcome} (prolongs : Prolongs entry further)
    (sound : ∀ fault, ¬ FailsAlone machine config state entry fault)
    (ends : EndsAsAlone machine config state rest result) :
    EndsAsAlone machine config state (entry :: rest) (result.map further) := by
  cases ends with
  | @succeeds _ summary others =>
      rcases prolongs.success summary with ⟨next, same⟩
      rw [Except.map, same]
      exact .succeeds (List.forall_mem_cons.mpr ⟨sound, others⟩)
  | @fails before after failing fault others alone =>
      rw [Except.map, prolongs.failure]
      exact fails (entry :: before) after (List.forall_mem_cons.mpr ⟨sound, others⟩) alone

theorem succeeded_iff {entries : List Entry}
    (ends : EndsAsAlone machine config state entries result) :
    (∃ summary, result = .ok (.succeeded summary)) ↔
      ∀ entry ∈ entries, ∀ fault, ¬ FailsAlone machine config state entry fault := by
  cases ends with
  | succeeds sound => exact ⟨fun _ => sound, fun _ => ⟨_, rfl⟩⟩
  | @fails before after entry fault sound alone =>
      refine ⟨fun impossible => by simp at impossible, fun all => ?_⟩
      exact absurd alone (all entry (List.mem_append_right _ List.mem_cons_self) fault)

end EndsAsAlone

end

/-! ## Every run ends so -/

section

variable {σ : Type} {folder : Folder σ} {machine : Machine σ} {config : Config}

/-- A run from any state with the initial content ends as its entries do alone. -/
theorem buildEntries_endsAsAlone (unlinks : folder.Unlinks machine config.directory)
    (canUnlink : folder.CanUnlink machine config.directory)
    (tools : folder.RepeatableTools machine config)
    (writable : unwritableDirectory? config.compiler = none) {entries : List Entry}
    {initial state : σ} (fresh : folder.IsFreshFor initial entries)
    (same : folder.Same state initial) :
    EndsAsAlone machine config initial entries
      (buildEntries machine config entries state).result := by
  induction entries generalizing state with
  | nil => exact .succeeds (List.forall_mem_nil _)
  | cons entry rest induction =>
      have attempted := (Entry.attempt_congr tools entry same).1
      have restored : folder.Same (entry.attempt machine config state).state state := by
        let visit : Visit σ := ⟨entry, state⟩
        have first : visit.entry ∈ entry :: rest := List.mem_cons_self
        exact Visit.attempted_restores unlinks canUnlink tools first (fresh.ofSame same)
      -- Each entry meets the initial content again, so it goes as it goes alone.
      have onward := induction fresh.tail (restored.trans same)
      rcases buildEntries_cons_cases writable with
        ⟨fault, failed, stopped⟩ | ⟨sound, further, prolongs, prolonged⟩
      · have alone : FailsAlone machine config initial entry fault :=
          failsAlone_iff.mpr (attempted.symm.trans failed)
        rw [stopped]
        exact .fails [] rest (List.forall_mem_nil _) alone
      · rw [prolonged]
        exact onward.onward prolongs fun fault alone =>
          sound fault (attempted.trans (failsAlone_iff.mp alone))

theorem buildEntries_summary {entries : List Entry} {state : σ} {summary : Summary}
    (succeeded : (buildEntries machine config entries state).result =
      .ok (.succeeded summary)) :
    summary = ⟨(buildableIn entries).map Entry.name, (excludedIn entries).map Entry.name,
      (ignoredIn entries).map Entry.name⟩ := by
  have course := buildEntries_course machine config entries state
  rw [succeeded] at course
  rcases course.account with all | fails
  · exact Outcome.succeeded.inj all.outcome_eq
  · exact absurd rfl (fails.not_succeeded summary)

/-- Whether a plan can be built does not depend on the order of its entries, as long as what
stands in its directory can be unlinked. In any order its entries are built, skipped and
ignored, or it stops at the first entry that fails alone. -/
theorem Plan.build_in_any_order (unlinks : folder.Unlinks machine config.directory)
    (canUnlink : folder.CanUnlink machine config.directory)
    (tools : folder.RepeatableTools machine config) {platform : Platform} {state : σ}
    {plan : Plan} (discovers : Discovers machine config.directory platform state plan)
    (writable : unwritableDirectory? config.compiler = none)
    (absent : ∀ artifact ∈ artifactsOf plan.entries, folder.item? state (utf8 artifact) = none)
    {first second : Plan} (firstOrder : first.entries.Perm plan.entries)
    (secondOrder : second.entries.Perm plan.entries) :
    let run := first.build machine config state
    let other := second.build machine config state
    ((∃ summary, run.result = .ok (.succeeded summary)) ↔
        ∃ summary, other.result = .ok (.succeeded summary)) ∧
      (∀ summary others, run.result = .ok (.succeeded summary) →
        other.result = .ok (.succeeded others) →
          summary.built.Perm others.built ∧ summary.skipped.Perm others.skipped ∧
            summary.ignored.Perm others.ignored) ∧
      EndsAsAlone machine config state first.entries run.result ∧
      EndsAsAlone machine config state second.entries other.result := by
  intro run other
  have ends {ordering : Plan} (order : ordering.entries.Perm plan.entries) :
      EndsAsAlone machine config state ordering.entries
        (ordering.build machine config state).result := by
    have own := discovers.haveOwnArtifacts
    have artifacts : (artifactsOf ordering.entries).Perm (artifactsOf plan.entries) :=
      order.filterMap _
    have fresh : folder.IsFreshFor state ordering.entries :=
      ⟨fun artifact member => own.fileNames artifact (artifacts.mem_iff.mp member),
        fun artifact member => absent artifact (artifacts.mem_iff.mp member)⟩
    exact buildEntries_endsAsAlone unlinks canUnlink tools writable fresh (.refl state)
  have order := firstOrder.trans secondOrder.symm
  refine ⟨?_, ?_, ends firstOrder, ends secondOrder⟩
  · rw [(ends firstOrder).succeeded_iff, (ends secondOrder).succeeded_iff]
    exact ⟨fun sound entry member => sound entry (order.mem_iff.mpr member),
      fun sound entry member => sound entry (order.mem_iff.mp member)⟩
  · intro summary others succeeded succeededSo
    rw [buildEntries_summary succeeded, buildEntries_summary succeededSo]
    exact ⟨(order.filter _).map _, (order.filter _).map _, (order.filter _).map _⟩

end

/-! Two sources and a project, in the order of the listing and in the opposite one. -/

namespace Rehearsal

theorem twoSources_in_any_order :
    let run := twoSourcesPlan.build tidyMachine twoSourcesConfig twoSources
    let reversed : Plan := ⟨twoSourcesPlan.entries.reverse⟩
    let other := reversed.build tidyMachine twoSourcesConfig twoSources
    run.result = .ok (.succeeded ⟨["a.cx", "p", "b.cx"], [], []⟩) ∧
      EndsAsAlone tidyMachine twoSourcesConfig twoSources reversed.entries other.result ∧
      ∃ summary, other.result = .ok (.succeeded summary) := by
  have succeeded : (twoSourcesPlan.build tidyMachine twoSourcesConfig twoSources).result =
      .ok (.succeeded ⟨["a.cx", "p", "b.cx"], [], []⟩) := rfl
  have reversal : twoSourcesPlan.entries.reverse.Perm twoSourcesPlan.entries :=
    List.reverse_perm _
  rcases Plan.build_in_any_order (rootFolder_unlinks rfl) (rootFolder_canUnlink rfl)
    (tidyMachine_repeatableTools twoSourcesConfig) twoSources_discovers rfl twoSources_absent
    (.refl twoSourcesPlan.entries) reversal with ⟨alike, _, _, ends⟩
  exact ⟨succeeded, ends, alike.mp ⟨_, succeeded⟩⟩

/-! A directory that is spelled with so many slashes that no path to a file in it can be
unlinked. Processes run in it all the same. A source that is a link finds what the other one
was compiled to, but only after it. -/

def canRead (state : State) (source : ByteText) : Bool :=
  match (rootFolder.item? state source : Option Item) with
  | some (.file _ _) => true
  | some (.link target) =>
      match (rootFolder.item? state target : Option Item) with
      | some (.file _ _) => true
      | _ => false
  | _ => false

def canStart (state : State) (command : Command) : Bool :=
  match command.environment, command.arguments with
  | none, source :: _ => canRead state (utf8 source)
  | _, _ => true

def readingMachine : Machine State :=
  { tidyMachine with
    launch := fun state command directory =>
      if canStart state command then tidyLaunch state command directory
      else (.exited 4, state) }

theorem canStart_congr {left right : State} (same : rootFolder.Same left right)
    (command : Command) : canStart left command = canStart right command := by
  simp only [canStart, canRead, same _]

theorem readingMachine_repeatableTools (config : Config) :
    rootFolder.RepeatableTools readingMachine config where
  tidy.compiler state source artifact name other := by
    dsimp only [readingMachine]
    split
    · exact (tidyMachine_tidyTools config).compiler state source artifact name other
    · rfl
  tidy.make state project command name made := by
    dsimp only [readingMachine]
    split
    · exact (tidyMachine_tidyTools config).make state project command name made
    · rfl
  output state source artifact item absent present := by
    dsimp only [readingMachine] at present
    split at present
    · exact (tidyMachine_repeatableTools config).output state source artifact item absent present
    · cases absent.symm.trans present
  ending left right command same := by
    dsimp only [readingMachine]
    rw [canStart_congr same]
    split
    · exact (tidyMachine_repeatableTools config).ending left right command same
    · rfl

def slashes : Path := List.replicate longestPath Path.slash

theorem unlink_below_slashes (start : Start) (state : State) {name : ByteText}
    (fileName : IsFileName name) :
    ∃ cause, unlink start state (slashes.join name) = (.error cause, state) := by
  have endsInSlash : Path.endsInSlash slashes = true := by
    rw [Path.endsInSlash, slashes, List.getLast?_replicate]
    rfl
  have joined : slashes.join name = slashes ++ name := by
    simp [Path.join, Path.isRelative_of_noSlash fileName.2, endsInSlash]
  have tooLong : longestPath < (slashes ++ name).length := by
    have := List.length_pos_iff.mpr fileName.1
    rw [List.length_append, slashes, List.length_replicate]
    omega
  have nonempty : slashes ++ name ≠ [] := List.append_ne_nil_of_right_ne_nil _ fileName.1
  rw [joined, unlink, FileTree.unlink, checkPath]
  by_cases nul : List.contains (slashes ++ name) 0
  · exact ⟨.nulInPath, by simp only [nul, if_true]⟩
  · exact ⟨.nameTooLong, by simp only [nul, nonempty, tooLong, if_true, if_false]; rfl⟩

theorem slashes_unlinks : rootFolder.Unlinks readingMachine slashes where
  taken state name fileName came := by
    rcases unlink_below_slashes ⟨.empty, []⟩ state fileName with ⟨cause, refused⟩
    cases (congrArg Prod.fst refused).symm.trans came
  refused state name cause fileName came := by
    rcases unlink_below_slashes ⟨.empty, []⟩ state fileName with ⟨_, refused⟩
    exact congrArg (fun done => rootFolder.item? done.2 name) refused
  others state name other fileName different := by
    rcases unlink_below_slashes ⟨.empty, []⟩ state fileName with ⟨_, refused⟩
    exact congrArg (fun done => rootFolder.item? done.2 other) refused

def slashesConfig : Config := { twoSourcesConfig with directory := slashes }

def linkToOutput : State :=
  ⟨⟨[([utf8 "prelude.cx"], .file (.text []) false),
    ([utf8 "main.cx"], .link (utf8 "prelude"))]⟩, []⟩

def linkToOutputPlan : Plan :=
  ⟨[⟨"prelude.cx", .compile "prelude"⟩, ⟨"main.cx", .compile "main"⟩]⟩

theorem linkToOutput_discovers :
    Discovers readingMachine slashes .linux linkToOutput linkToOutputPlan where
  discovered := by decide +kernel
  listing listing listed := by
    have names : (readingMachine.list linkToOutput slashes).map
        (fun listing => (readNames listing).1.map ListedName.name) =
          .ok [utf8 "prelude.cx", utf8 "main.cx"] := by decide +kernel
    rw [listed] at names
    have names : (readNames listing).1.map ListedName.name =
        [utf8 "prelude.cx", utf8 "main.cx"] := Except.ok.inj names
    have fileNames : ∀ name ∈ [utf8 "prelude.cx", utf8 "main.cx"], IsFileName name := by decide
    refine ⟨fun found member => fileNames found.name ?_, ?_⟩
    · rw [← names]
      exact List.mem_map_of_mem member
    · rw [names]
      decide

theorem linkToOutput_depends_on_order :
    let reversed : Plan := ⟨linkToOutputPlan.entries.reverse⟩
    rootFolder.Unlinks readingMachine slashesConfig.directory ∧
      rootFolder.RepeatableTools readingMachine slashesConfig ∧
      Discovers readingMachine slashesConfig.directory .linux linkToOutput linkToOutputPlan ∧
      unwritableDirectory? slashesConfig.compiler = none ∧
      (∀ artifact ∈ artifactsOf linkToOutputPlan.entries,
        rootFolder.item? linkToOutput (utf8 artifact) = none) ∧
      reversed.entries.Perm linkToOutputPlan.entries ∧
      (linkToOutputPlan.build readingMachine slashesConfig linkToOutput).result =
        .ok (.succeeded ⟨["prelude.cx", "main.cx"], [], []⟩) ∧
      (reversed.build readingMachine slashesConfig linkToOutput).result =
        .ok (.failed ⟨"main.cx", .exited (some 4), []⟩) :=
  ⟨slashes_unlinks, readingMachine_repeatableTools _, linkToOutput_discovers, rfl,
    by decide +kernel, List.reverse_perm _, by decide +kernel, by decide +kernel⟩

end Rehearsal

end ExampleBuild
