import ExampleBuild.Proofs.Build.Cleanup
import ExampleBuild.Proofs.Program.Endings
import ExampleBuild.Proofs.Report.PlanLines

namespace ExampleBuild

/-! A dry run gives a preview of the build: as long as every process succeeds, the build
launches what was shown, passes over what was shown without a command, and stops with an
error where the dry run did. Both go through the entries on their own, and the preview is
what they agree on. -/

open Program PlanLines

structure Preview where
  shown : List (Entry × Option Command)
  /-- The entry whose command cannot be written, and why. Nothing after it is shown. -/
  stop : Option (Entry × RunError)

namespace Preview

def after (entry : Entry) (command : Option Command) (later : Preview) : Preview :=
  { later with shown := (entry, command) :: later.shown }

def ofEntries (config : Config) (environment : Environment) : List Entry → Preview
  | [] => ⟨[], none⟩
  | entry :: rest =>
      match DryRun.commandFor config environment entry with
      | .error error => ⟨[], some (entry, error)⟩
      | .ok command => (ofEntries config environment rest).after entry command

def commands (preview : Preview) : List Command := preview.shown.filterMap (·.2)

def passedOver (preview : Preview) : List Entry :=
  (preview.shown.filter fun shown => shown.2.isNone).map (·.1)

def reached (preview : Preview) : List Entry :=
  preview.shown.map (·.1) ++ preview.stop.toList.map (·.1)

def result (preview : Preview) : Except RunError Unit :=
  match preview.stop with
  | none => .ok ()
  | some (_, error) => .error error

/-! ## As text -/

/-- The count comes last, and only if nothing stopped the preview. -/
def countLines (coloured : Bool) (count : Nat) (preview : Preview) : List String :=
  match preview.stop with
  | none => ["", countLine coloured count]
  | some _ => []

def lines (coloured : Bool) (config : Config) (count : Nat) (preview : Preview) : List String :=
  [heading coloured config.directory, ""] ++
    preview.shown.flatMap (ofShown coloured) ++ preview.countLines coloured count

structure ShownBy {σ : Type} (preview : Preview) (machine : Machine σ) (config : Config)
    (plan : Plan) : Prop where
  /-- Any plan can be shown, from any state. -/
  shows : ∀ (style : Style) (state : σ),
    DryRun.showPlan style config machine.environment plan state =
      ⟨preview.result, printings ((preview.lines style.coloured config plan.buildCount).map
        fun line => (.output, line)), state⟩
  /-- The plan that the dry run itself discovers is the one that it shows. The commands and
  what is passed over can be told from the other lines by how their lines begin. -/
  printed : ∀ state,
    (discover machine config.directory config.platform state).result = .ok plan →
    let coloured := Colours.areWanted machine.environment
    let printed := outputLines (DryRun.perform machine config .text state).actions
    printed = preview.lines coloured config plan.buildCount ∧
      printed.filter (beginsWith commandMark) = preview.commands.map (commandLine coloured) ∧
      printed.filter (beginsWith (passedMark coloured)) =
        preview.passedOver.map (passedLine coloured)
  no_deed : ∀ format state,
    deeds (DryRun.perform machine config format state).actions = [] ∧
      (DryRun.perform machine config format state).state = state

/-! ## As a build -/

structure FulfilledBy {σ : Type} (preview : Preview) (machine : Machine σ) (config : Config)
    (plan : Plan) (state : σ) : Prop where
  commands : (launches (plan.build machine config state).actions).map Launch.command =
    preview.commands
  /-- The build comes to the same entries, so an error meets both at the same one. -/
  reached : (visits machine config plan.entries state).map Visit.entry = preview.reached
  error_iff : ∀ error, (plan.build machine config state).result = .error error ↔
    preview.result = .error error
  complete : preview.result = .ok () →
    ∃ summary, (plan.build machine config state).result = .ok (.succeeded summary) ∧
      preview.commands.length = plan.buildCount ∧
      summary.built.length = plan.buildCount ∧
      (preview.passedOver.map Entry.name).Perm (summary.skipped ++ summary.ignored)

end Preview

/-! ## What is shown -/

section

variable {config : Config} {environment : Environment}

namespace DryRun

theorem commandFor_of_passed {entry : Entry} (passed : entry.treatment.isBuildable = false) :
    commandFor config environment entry = .ok none := by
  rcases Treatment.isBuildable_eq_false_iff.mp passed with treated | treated <;>
    rw [commandFor, treated]

theorem commandFor_of_refused {entry : Entry} {error : RunError}
    (treated : entry.treatment = .make)
    (refused : Command.make config entry.name environment = .error error) :
    commandFor config environment entry = .error error := by
  simp only [commandFor, treated, refused, Except.map]

theorem commandFor_of_build {σ : Type} {machine : Machine σ} {entry : Entry}
    {command : Command} {before after : σ} {ending : Ending} {own : List Action}
    (build : BuildOf machine config entry command before ending own after) :
    commandFor config machine.environment entry = .ok (some command) := by
  cases build with
  | source treated asked => simp only [commandFor, treated, asked]
  | project treated asked => simp only [commandFor, treated, asked, Except.map]

theorem isNone_of_commandFor {entry : Entry} {command : Option Command}
    (asked : commandFor config environment entry = .ok command) :
    command.isNone = !entry.treatment.isBuildable := by
  cases treated : entry.treatment with
  | compile | excluded | ignored =>
      simp only [commandFor, treated, Except.ok.injEq] at asked
      subst asked
      rfl
  | make =>
      cases made : Command.make config entry.name environment with
      | error error => simp [commandFor, treated, made, Except.map] at asked
      | ok written =>
          simp only [commandFor, treated, made, Except.map, Except.ok.injEq] at asked
          subst asked
          rfl

end DryRun

namespace Preview

theorem ofEntries_passedOver {entries : List Entry}
    (complete : (ofEntries config environment entries).stop = none) :
    (ofEntries config environment entries).passedOver =
      entries.filter fun entry => !entry.treatment.isBuildable := by
  induction entries with
  | nil => rfl
  | cons entry rest induction =>
      rw [ofEntries] at complete ⊢
      cases asked : DryRun.commandFor config environment entry with
      | error error => simp [asked] at complete
      | ok command =>
          simp only [asked, after] at complete ⊢
          have later := induction complete
          rw [List.filter_cons, ← DryRun.isNone_of_commandFor asked, ← later]
          cases command <;> rfl

theorem ofEntries_passedOver_perm {entries : List Entry}
    (complete : (ofEntries config environment entries).stop = none) :
    (ofEntries config environment entries).passedOver.Perm
      (excludedIn entries ++ ignoredIn entries) := by
  have notBuildable := (perm_of_treatments entries).symm.filter fun entry =>
    !entry.treatment.isBuildable
  rw [← ofEntries_passedOver complete] at notBuildable
  rw [List.append_assoc, List.filter_append] at notBuildable
  have noneBuilt : (buildableIn entries).filter (fun entry => !entry.treatment.isBuildable) =
      [] := by
    simp [buildableIn, List.filter_filter]
  have allPassed : (excludedIn entries ++ ignoredIn entries).filter
      (fun entry => !entry.treatment.isBuildable) = excludedIn entries ++ ignoredIn entries := by
    rw [List.filter_eq_self]
    intro entry member
    rcases List.mem_append.mp member with excluded | ignored
    · simp [of_decide_eq_true (List.mem_filter.mp excluded).2]
    · simp [of_decide_eq_true (List.mem_filter.mp ignored).2]
  rwa [noneBuilt, allPassed, List.nil_append] at notBuildable

theorem result_eq_ok_iff {preview : Preview} :
    preview.result = .ok () ↔ preview.stop = none := by
  rw [result]
  cases preview.stop <;> simp

end Preview

namespace DryRun

variable {σ : Type}

theorem showEntries_eq (style : Style) (entries : List Entry) (state : σ) :
    showEntries style config environment entries state =
      let preview := Preview.ofEntries config environment entries
      ⟨preview.result, printings ((preview.shown.flatMap
        (ofShown style.coloured)).map fun line => (.output, line)), state⟩ := by
  induction entries with
  | nil => rfl
  | cons entry rest induction =>
      rw [showEntries, Preview.ofEntries]
      cases commandFor config environment entry with
      | error error => rfl
      | ok command =>
          simp [induction, Preview.after, Preview.result, printings, entryLines_eq]

theorem showPlan_eq (style : Style) (plan : Plan) (state : σ) :
    showPlan style config environment plan state =
      let preview := Preview.ofEntries config environment plan.entries
      ⟨preview.result, printings ((preview.lines style.coloured config plan.buildCount).map
        fun line => (.output, line)), state⟩ := by
  simp only [showPlan, Activity.bind_apply, Activity.print_apply, showEntries_eq,
    notice_eq_heading, statistic_eq_countLine, Preview.lines, Preview.countLines, Preview.result]
  cases (Preview.ofEntries config environment plan.entries).stop <;> simp [printings]

theorem perform_deeds (machine : Machine σ) (config : Config) (format : OutputFormat)
    (state : σ) :
    deeds (perform machine config format state).actions = [] ∧
      (perform machine config format state).state = state := by
  have unchanged := (discover_eq machine config.directory config.platform state).1
  rcases discover_notes machine config.directory config.platform state with ⟨events, notes⟩
  rw [perform, Activity.bind_apply, unchanged, notes]
  cases (discover machine config.directory config.platform state).result with
  | error error => simp
  | ok plan =>
      cases format with
      | json => simp
      | text =>
          simp only [Activity.bind_apply, showPlan_eq]
          cases (Preview.ofEntries config machine.environment plan.entries).result <;> simp

theorem perform_text_outputLines {machine : Machine σ} {config : Config} {plan : Plan}
    {state : σ}
    (discovered : (discover machine config.directory config.platform state).result = .ok plan) :
    outputLines (perform machine config .text state).actions =
      (Preview.ofEntries config machine.environment plan.entries).lines
        (Colours.areWanted machine.environment) config plan.buildCount := by
  rcases discover_notes machine config.directory config.platform state with ⟨events, notes⟩
  simp only [perform, Activity.bind_apply, discovered, notes, showPlan_eq,
    Style.ofEnvironment]
  cases (Preview.ofEntries config machine.environment plan.entries).result <;> simp

end DryRun

/-! ## What the lines tell -/

namespace Preview

variable {coloured : Bool} {preview : Preview}

theorem filter_shown_commands (shown : List (Entry × Option Command)) :
    (shown.flatMap (ofShown coloured)).filter (beginsWith commandMark) =
      (shown.filterMap (·.2)).map (commandLine coloured) := by
  induction shown with
  | nil => rfl
  | cons first rest induction =>
      rw [List.flatMap_cons, List.filter_append, filter_ofShown_commands, induction,
        List.filterMap_cons]
      cases first.2 <;> rfl

theorem filter_shown_passed (shown : List (Entry × Option Command)) :
    (shown.flatMap (ofShown coloured)).filter (beginsWith (passedMark coloured)) =
      ((shown.filter fun shown => shown.2.isNone).map (·.1)).map (passedLine coloured) := by
  induction shown with
  | nil => rfl
  | cons first rest induction =>
      rw [List.flatMap_cons, List.filter_append, filter_ofShown_passed, induction,
        List.filter_cons]
      split <;> rfl

theorem filter_lines (count : Nat) (begins : String → Bool)
    (atHeading : begins (heading coloured config.directory) = false) (empty : begins "" = false)
    (atCount : begins (countLine coloured count) = false) :
    (preview.lines coloured config count).filter begins =
      (preview.shown.flatMap (ofShown coloured)).filter begins := by
  have last : (preview.countLines coloured count).filter begins = [] := by
    rw [countLines]
    cases preview.stop <;> simp [empty, atCount]
  simp [lines, last, atHeading, empty]

theorem filter_lines_commands (count : Nat) :
    (preview.lines coloured config count).filter (beginsWith commandMark) =
      preview.commands.map (commandLine coloured) := by
  rw [filter_lines count _ (beginsWith_heading coloured _).1 rfl
    (beginsWith_countLine coloured _).1, filter_shown_commands, commands]

theorem filter_lines_passed (count : Nat) :
    (preview.lines coloured config count).filter (beginsWith (passedMark coloured)) =
      preview.passedOver.map (passedLine coloured) := by
  rw [filter_lines count _ (beginsWith_heading coloured _).2 (by cases coloured <;> rfl)
    (beginsWith_countLine coloured _).2, filter_shown_passed, passedOver]

theorem shown_by_dryRun (machine : Machine σ) (config : Config) (plan : Plan) :
    (ofEntries config machine.environment plan.entries).ShownBy machine config plan where
  shows style := DryRun.showPlan_eq style plan
  printed _ discovered := by
    have printed := DryRun.perform_text_outputLines discovered
    exact ⟨printed, by rw [printed, filter_lines_commands],
      by rw [printed, filter_lines_passed]⟩
  no_deed := DryRun.perform_deeds machine config

end Preview

end

/-! ## What is built -/

namespace Preview

/-- What a run has launched, the entries that it came to and what it came to itself are
what the preview has. -/
structure Matches (preview : Preview) (launched : List Launch) (reached : List Entry)
    (result : Except RunError Outcome) : Prop where
  commands : launched.map Launch.command = preview.commands
  reached : reached = preview.reached
  result : result.map (fun _ => ()) = preview.result

section

variable {preview : Preview} {launched : List Launch} {reached : List Entry}
  {result : Except RunError Outcome}

theorem Matches.afterPassing (entry : Entry) (further : Outcome → Outcome)
    (agree : preview.Matches launched reached result) :
    (preview.after entry none).Matches launched (entry :: reached) (result.map further) := by
  refine ⟨agree.commands, congrArg (entry :: ·) agree.reached, ?_⟩
  calc (result.map further).map (fun _ => ())
    _ = result.map (fun _ => ()) := by cases result <;> rfl
    _ = preview.result := agree.result

theorem Matches.afterBuilding (entry : Entry) (launch : Launch) (further : Outcome → Outcome)
    (agree : preview.Matches launched reached result) :
    (preview.after entry (some launch.command)).Matches (launch :: launched)
      (entry :: reached) (result.map further) := by
  refine ⟨congrArg (launch.command :: ·) agree.commands,
    congrArg (entry :: ·) agree.reached, ?_⟩
  calc (result.map further).map (fun _ => ())
    _ = result.map (fun _ => ()) := by cases result <;> rfl
    _ = preview.result := agree.result

end

end Preview

section

variable {σ : Type} {machine : Machine σ} {config : Config}

theorem buildEntries_matches (entries : List Entry) (state : σ)
    (succeed : ∀ launch ∈ launches (buildEntries machine config entries state).actions,
      launch.Succeeds) :
    (Preview.ofEntries config machine.environment entries).Matches
      (launches (buildEntries machine config entries state).actions)
      ((visits machine config entries state).map Visit.entry)
      (buildEntries machine config entries state).result := by
  induction entries generalizing state with
  | nil => exact ⟨rfl, rfl, rfl⟩
  | cons entry rest induction =>
      rw [visits, Preview.ofEntries]
      rcases entry.build_cases machine config state with
        passed | ⟨command, ending, own, between, build⟩ | ⟨error, treated, refused⟩
      · rcases buildEntries_of_passed machine config passed with ⟨events, same⟩
        rcases Entry.attempt_of_passed machine config passed with ⟨attempt, noted, goesOn, came⟩
        rw [same] at succeed ⊢
        rw [DryRun.commandFor_of_passed passed, came, goesOn]
        simp only [launches_append, launches_notes, List.nil_append, if_true] at succeed ⊢
        exact (induction state succeed).afterPassing entry (.afterPassing entry)
      · rcases Entry.attempt_of_build build with ⟨result, done, after⟩
        have ownLaunches : launches (entry.attempt machine config state).actions =
            [⟨command, config.directory, ending⟩] := by
          rw [← launches_deeds, done, build.launches_eq]
        rw [DryRun.commandFor_of_build build]
        rw [buildEntries_cons] at succeed ⊢
        cases faulty : ending.fault? command.program with
        | some fault =>
            -- The build would end here and the preview would not, but no process fails.
            simp only [result, faulty, Attempt.ofFault?_some, launches_append, ownLaunches]
              at succeed
            have ended := succeed _ (List.mem_append_left _ List.mem_cons_self)
            cases faulty.symm.trans (Ending.fault?_eq_none_iff.mpr ended)
        | none =>
            simp only [result, after, faulty, Attempt.ofFault?_none, launches_append,
              ownLaunches, Attempt.goesOn] at succeed ⊢
            have later := induction between fun launch member =>
              succeed launch (List.mem_append_right _ member)
            exact later.afterBuilding entry ⟨command, config.directory, ending⟩
              (.afterBuilding entry.name)
      · rw [DryRun.commandFor_of_refused treated refused, buildEntries_cons]
        simp only [Entry.attempt_of_project treated, refused]
        exact ⟨rfl, rfl, rfl⟩

theorem Plan.build_fulfils_preview {plan : Plan} {state : σ}
    (succeed : ∀ launch ∈ launches (plan.build machine config state).actions,
      launch.Succeeds) :
    (Preview.ofEntries config machine.environment plan.entries).FulfilledBy machine config plan
      state := by
  have agree := buildEntries_matches plan.entries state succeed
  refine ⟨agree.commands, agree.reached, fun error => ?_, fun complete => ?_⟩
  · rw [← agree.result]
    change (buildEntries machine config plan.entries state).result = .error error ↔ _
    cases (buildEntries machine config plan.entries state).result <;> simp [Except.map]
  · have course := buildEntries_course machine config plan.entries state
    cases finished : (buildEntries machine config plan.entries state).result with
    | error error =>
        rw [← agree.result, finished] at complete
        cases complete
    | ok outcome =>
        rw [finished] at course
        have account := course.account
        rw [launches_deeds] at account
        have counted : plan.buildCount = (buildableIn plan.entries).length :=
          List.countP_eq_length_filter
        rcases account with all | fails
        · refine ⟨_, finished.trans (congrArg _ all.outcome_eq), ?_, ?_, ?_⟩
          · rw [← agree.commands, List.length_map, all.each.length_eq, counted]
          · rw [List.length_map, counted]
          · rw [← List.map_append]
            exact (Preview.ofEntries_passedOver_perm
              (Preview.result_eq_ok_iff.mp complete)).map Entry.name
        · rcases fails.exists_unsuccessful with ⟨launch, member, unsuccessful⟩
          exact absurd (succeed launch member) unsuccessful

/-- The text that a dry run shows of a plan tells what building the plan does, as long as
every process that is started succeeds. -/
theorem DryRun.foretells_build (machine : Machine σ) (config : Config) (plan : Plan) (state : σ)
    (succeed : ∀ launch ∈ launches (plan.build machine config state).actions,
      launch.Succeeds) :
    let preview := Preview.ofEntries config machine.environment plan.entries
    preview.ShownBy machine config plan ∧ preview.FulfilledBy machine config plan state :=
  ⟨Preview.shown_by_dryRun machine config plan, Plan.build_fulfils_preview succeed⟩

theorem buildEntries_succeed
    (always : ∀ state command, (machine.launch state command config.directory).1 = .exited 0)
    (entries : List Entry) (state : σ) :
    ∀ launch ∈ launches (buildEntries machine config entries state).actions,
      launch.Succeeds := by
  intro launch member
  rcases List.mem_filterMap.mp member with ⟨action, done, same⟩
  cases action with
  | noted | unlinked | printed => cases same
  | launched command directory ending =>
      cases same
      rcases (mem_buildEntries_iff rfl).mp done with ⟨visit, _, launched⟩
      exact (Visit.launched_mem_iff.mp launched).2.2.trans (always _ _)

end

/-! A project between two sources, after an excluded and an ignored item. With a compiler
whose directory no search path can hold, the project stops both the dry run and the build. -/

namespace Rehearsal

theorem tidyLaunch_succeeds (state : State) (command : Command) (directory : Path) :
    (tidyLaunch state command directory).1 = .exited 0 := by
  unfold tidyLaunch
  split <;> rfl

def colonConfig : Config := { stoppedProjectConfig with compiler := "/a:b/cx" }

theorem stoppedProject_foretold :
    let preview config :=
      Preview.ofEntries config tidyMachine.environment stoppedProjectPlan.entries
    let foretells config :=
      (preview config).ShownBy tidyMachine config stoppedProjectPlan ∧
        (preview config).FulfilledBy tidyMachine config stoppedProjectPlan twoSources
    let shown coloured config := outputLines (DryRun.showPlan ⟨coloured⟩ config
      tidyMachine.environment stoppedProjectPlan twoSources).actions
    let launched config := (launches (stoppedProjectPlan.build tidyMachine config
      twoSources).actions).map fun launch => (launch.command.program, launch.command.arguments)
    (preview stoppedProjectConfig).result = .ok () ∧ foretells stoppedProjectConfig ∧
      shown false stoppedProjectConfig =
        ["• Examples in /rehearsal/examples", "",
         "  + a.cx (compile to a.exe)", "      /rehearsal/bin/cx a.cx -o a.exe -Werror -O2",
         "  - tree.cx (excluded on this platform)", "  - inputs (ignored)",
         "  + p (make project)", "      make -C p CXFLAGS=-O2",
         "  + b.cx (compile to b.exe)", "      /rehearsal/bin/cx b.cx -o b.exe -Werror -O2",
         "", "  Would build: 3"] ∧
      launched stoppedProjectConfig =
        [("/rehearsal/bin/cx", ["a.cx", "-o", "a.exe", "-Werror", "-O2"]),
         ("make", ["-C", "p", "CXFLAGS=-O2"]),
         ("/rehearsal/bin/cx", ["b.cx", "-o", "b.exe", "-Werror", "-O2"])] ∧
      (preview colonConfig).result = .error (.unwritableSearchPath (utf8 "/a:b")) ∧
      (preview colonConfig).commands = [.compile colonConfig "a.cx" "a.exe"] ∧
      foretells colonConfig ∧
      shown true colonConfig =
        ["\x1b[34m•\x1b[39m Examples in /rehearsal/examples", "",
         "  \x1b[32m+\x1b[39m a.cx \x1b[2m(compile to a.exe)\x1b[0m",
         "      \x1b[2m/a:b/cx\x1b[0m \x1b[2ma.cx -o a.exe -Werror -O2\x1b[0m",
         "  \x1b[2m-\x1b[0m \x1b[2mtree.cx (excluded on this platform)\x1b[0m",
         "  \x1b[2m-\x1b[0m \x1b[2minputs (ignored)\x1b[0m"] ∧
      launched colonConfig = [("/a:b/cx", ["a.cx", "-o", "a.exe", "-Werror", "-O2"])] := by
  have succeed (config : Config) : ∀ launch ∈
      launches (stoppedProjectPlan.build tidyMachine config twoSources).actions,
      launch.Succeeds :=
    buildEntries_succeed (fun state command => tidyLaunch_succeeds state command config.directory)
      stoppedProjectPlan.entries twoSources
  refine ⟨rfl, DryRun.foretells_build _ _ _ _ (succeed _), ?_, ?_, rfl, rfl,
    DryRun.foretells_build _ _ _ _ (succeed _), ?_, ?_⟩
  all_goals decide +kernel

end Rehearsal

end ExampleBuild
