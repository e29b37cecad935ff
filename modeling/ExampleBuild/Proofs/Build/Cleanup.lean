import ExampleBuild.Proofs.Rehearsal.RootFolder

namespace ExampleBuild

/-! After each compiler the file at its artifact's name is removed. The artifacts of a
discovered plan differ, so what is cleared stays clear while the others are built. -/

/-! ## Entries that were asked to be compiled -/

theorem Command.make_environment_ne_none {config : Config} {project : String}
    {base : Environment} {command : Command}
    (made : Command.make config project base = .ok command) : command.environment ≠ none := by
  intro inherited
  cases environment : projectEnvironment config.compiler config.platform base with
  | error error => simp [Command.make, environment] at made
  | ok environment' =>
      simp only [Command.make, environment, Except.ok.injEq] at made
      subst made
      cases inherited

theorem Entry.artifact?_of_command? {config : Config} {environment : Environment}
    {entry : Entry} {source artifact : String}
    (asked : entry.command? config environment = some (.compile config source artifact)) :
    entry.artifact? = some artifact := by
  cases treated : entry.treatment with
  | compile own =>
      rw [command?_of_source treated] at asked
      have sameArguments := congrArg Command.arguments (Option.some.inj asked)
      simp only [Command.compile, List.cons_append, List.cons.injEq] at sameArguments
      rw [artifact?_eq_some_iff, treated, sameArguments.2.2.1]
  | make =>
      rw [command?_of_project treated] at asked
      cases made : Command.make config entry.name environment with
      | error error => simp [made, Except.toOption] at asked
      | ok command =>
          rw [made, Except.toOption, Option.some.injEq] at asked
          subst asked
          exact absurd rfl (Command.make_environment_ne_none made)
  | excluded | ignored => simp [command?_of_passed, treated] at asked

/-! ## Entries that do not share their artifacts -/

structure HaveOwnArtifacts (entries : List Entry) : Prop where
  distinct : (artifactsOf entries).Nodup
  fileNames : ∀ artifact ∈ artifactsOf entries, IsFileName (utf8 artifact)

theorem mem_artifactsOf {entries : List Entry} {entry : Entry} {artifact : String}
    (member : entry ∈ entries) (compiles : entry.artifact? = some artifact) :
    artifact ∈ artifactsOf entries :=
  List.mem_filterMap.mpr ⟨entry, member, compiles⟩

namespace HaveOwnArtifacts

variable {entry : Entry} {entries rest : List Entry}

theorem ofMember (own : HaveOwnArtifacts entries) (member : entry ∈ entries)
    (artifact : String) (compiles : entry.artifact? = some artifact) :
    IsFileName (utf8 artifact) :=
  own.fileNames artifact (mem_artifactsOf member compiles)

theorem tail (own : HaveOwnArtifacts (entry :: rest)) : HaveOwnArtifacts rest := by
  have after : (artifactsOf rest).Sublist (artifactsOf (entry :: rest)) :=
    (List.sublist_cons_self entry rest).filterMap _
  exact ⟨own.distinct.sublist after, fun artifact member =>
    own.fileNames artifact (after.subset member)⟩

theorem not_mem_tail (own : HaveOwnArtifacts (entry :: rest)) {artifact : String}
    (compiles : entry.artifact? = some artifact) : artifact ∉ artifactsOf rest := by
  have distinct := own.distinct
  rw [artifactsOf, List.filterMap_cons_some compiles, List.nodup_cons] at distinct
  exact distinct.1

end HaveOwnArtifacts

theorem Discovers.haveOwnArtifacts {σ : Type} {machine : Machine σ} {platform : Platform}
    {directory : Path} {state : σ} {plan : Plan}
    (discovers : Discovers machine directory platform state plan) :
    HaveOwnArtifacts plan.entries := by
  rcases discovers.exists_listing with ⟨names, listing, rfl⟩
  exact ⟨Plan.artifacts_ofListing_nodup platform listing, fun artifact member =>
    Plan.artifacts_ofListing_fileNames platform listing member⟩

/-! ## No output survives -/

section

variable {σ : Type} {folder : Folder σ} {machine : Machine σ} {config : Config}

theorem buildEntries_keeps (unlinks : folder.Unlinks machine config.directory)
    (tidy : folder.TidyTools machine config) {entries : List Entry}
    (own : HaveOwnArtifacts entries) (state : σ) {name : ByteText}
    (other : ∀ artifact ∈ artifactsOf entries, name ≠ utf8 artifact) :
    folder.item? (buildEntries machine config entries state).state name =
      folder.item? state name := by
  apply buildEntries_preserves
    (fun now => folder.item? now name = folder.item? state name) rfl
  intro visit visited unchanged
  have ofEntries (artifact : String) (compiles : visit.entry.artifact? = some artifact) :
      artifact ∈ artifactsOf entries :=
    mem_artifactsOf (mem_visits_entries visited) compiles
  calc folder.item? (visit.attempted machine config).state name
    _ = folder.item? (visit.launched machine config) name :=
        Visit.attempted_others unlinks
          (own.ofMember (mem_visits_entries visited))
          (fun artifact compiles => other artifact (ofEntries artifact compiles))
    _ = folder.item? visit.before name :=
        Visit.launched_tidy tidy
          (fun artifact compiles => other artifact (ofEntries artifact compiles))
    _ = folder.item? state name := unchanged

/-- A name that a visit removed an artifact at is clear when the run ends, whatever comes
after the visit. -/
theorem buildEntries_clears (unlinks : folder.Unlinks machine config.directory)
    (canUnlink : folder.CanUnlink machine config.directory)
    (tidy : folder.TidyTools machine config) {entries : List Entry}
    (own : HaveOwnArtifacts entries) {state : σ} {visit : Visit σ}
    (visited : visit ∈ visits machine config entries state) {artifact : String}
    (compiles : visit.entry.artifact? = some artifact) :
    folder.IsClearAt (buildEntries machine config entries state).state (utf8 artifact) := by
  induction entries generalizing state with
  | nil => cases visited
  | cons entry rest induction =>
      rcases Visit.exists_first entry state with ⟨first, rfl, rfl⟩
      rw [visits_cons] at visited
      rw [buildEntries_state]
      rcases List.mem_cons.mp visited with rfl | later
      · have fileName := own.ofMember List.mem_cons_self artifact compiles
        have cleared : folder.IsClearAt (visit.attempted machine config).state
            (utf8 artifact) := by
          rw [Visit.after_of_artifact compiles]
          exact unlinks.clears canUnlink fileName
        split
        · rw [Folder.isClearAt_congr]
          · exact cleared
          · -- Later compilers write their own artifacts only, and those have other names.
            apply buildEntries_keeps unlinks tidy own.tail
            intro next member same
            exact own.not_mem_tail compiles (utf8_injective same ▸ member)
        · exact cleared
      · split at later
        · next goesOn =>
            rw [if_pos goesOn]
            exact induction own.tail later
        · cases later

/-- However a run ends, no output of a compiler that it started is left. -/
theorem Plan.build_leaves_no_artifact (unlinks : folder.Unlinks machine config.directory)
    (canUnlink : folder.CanUnlink machine config.directory)
    (tidy : folder.TidyTools machine config) {platform : Platform} {state : σ} {plan : Plan}
    (discovers : Discovers machine config.directory platform state plan)
    {source artifact : String} {ending : Ending}
    (attempted : .launched (.compile config source artifact) config.directory ending ∈
      (plan.build machine config state).actions) :
    folder.IsClearAt (plan.build machine config state).state (utf8 artifact) := by
  rcases (mem_buildEntries_iff rfl).mp attempted with ⟨visit, visited, action⟩
  have asked := (Visit.launched_mem_iff.mp action).1
  exact buildEntries_clears unlinks canUnlink tidy discovers.haveOwnArtifacts visited
    (Entry.artifact?_of_command? asked)

end

/-! A tidy compiler in the root of a rehearsal: it writes its output, and what is made
leaves no trace. -/

namespace Rehearsal

def tidyLaunch (state : State) (command : Command) (_ : Path) : Ending × State :=
  match command.environment, command.arguments with
  | none, _ :: _ :: artifact :: _ =>
      (.exited 0, { state with tree := state.tree.put [utf8 artifact] (.file (.text []) true) })
  | _, _ => (.exited 0, state)

def tidyMachine : Machine State := { machine ⟨.empty, []⟩ with launch := tidyLaunch }

theorem tidyMachine_tidyTools (config : Config) : rootFolder.TidyTools tidyMachine config where
  compiler state source artifact name other := by
    have launched :
        (tidyMachine.launch state (.compile config source artifact) config.directory).2 =
          { state with tree := state.tree.put [utf8 artifact] (.file (.text []) true) } := rfl
    have different : ¬ [utf8 artifact] = [name] := fun same => other (List.cons.inj same).1.symm
    rw [launched]
    simp [rootFolder, FileTree.item?_put, different]
  make state project command name made := by
    have environment := Command.make_environment_ne_none made
    have launched : tidyMachine.launch state command config.directory = (.exited 0, state) := by
      unfold tidyMachine tidyLaunch
      cases own : command.environment with
      | none => exact absurd own environment
      | some => simp [own]
    rw [launched]

def twoSources : State :=
  ⟨⟨[([utf8 "a.cx"], .file (.text []) false), ([utf8 "p"], .directory),
    ([utf8 "b.cx"], .file (.text []) false)]⟩, []⟩

def twoSourcesConfig : Config where
  compiler := "cx"
  extraArguments := ["-O2"]
  directory := [Path.slash]
  platform := .linux

def twoSourcesPlan : Plan :=
  ⟨[⟨"a.cx", .compile "a"⟩, ⟨"p", .make⟩, ⟨"b.cx", .compile "b"⟩]⟩

theorem twoSources_discovers :
    Discovers tidyMachine [Path.slash] .linux twoSources twoSourcesPlan where
  discovered := rfl
  listing listing listed := by
    cases listed
    exact ⟨by decide +kernel, by decide +kernel⟩

theorem twoSources_leave_no_artifact :
    let run := twoSourcesPlan.build tidyMachine twoSourcesConfig twoSources
    .launched (.compile twoSourcesConfig "a.cx" "a") [Path.slash] (.exited 0) ∈ run.actions ∧
      rootFolder.IsClearAt run.state (utf8 "a") :=
  have launched : .launched (.compile twoSourcesConfig "a.cx" "a") [Path.slash] (.exited 0) ∈
      (twoSourcesPlan.build tidyMachine twoSourcesConfig twoSources).actions :=
    List.mem_of_getElem? (show _[2]? = _ from rfl)
  ⟨launched, Plan.build_leaves_no_artifact (rootFolder_unlinks rfl) (rootFolder_canUnlink rfl)
    (tidyMachine_tidyTools _) twoSources_discovers launched⟩

end Rehearsal

end ExampleBuild
