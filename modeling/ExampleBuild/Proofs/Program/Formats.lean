import ExampleBuild.Proofs.Arguments.Respelling
import ExampleBuild.Proofs.Entry.Commands
import ExampleBuild.Proofs.Program.ExitCode
import ExampleBuild.Proofs.Program.Preview

namespace ExampleBuild

/-! The format of the output is for whoever reads it. It changes nothing about what a run
does to its machine, and nothing about its exit code either, but for one case: a dry run in
JSON shows a plan whose project cannot be built, where a dry run in text stops at it. -/

/-! ## Asking for a format -/

def Options.inFormat (format : OutputFormat) (options : Options) : Options :=
  { options with output := format }

theorem Options.dryRun_inFormat (format : OutputFormat) (options : Options) :
    (options.inFormat format).dryRun = options.dryRun := rfl

theorem Options.output_inFormat (format : OutputFormat) (options : Options) :
    (options.inFormat format).output = format := rfl

namespace Choices

def inFormat (format : OutputFormat) (choices : Choices) : Choices :=
  { choices with output := some format }

section

variable (choices : Choices) (format : OutputFormat)

theorem assign_inFormat (setting : Setting) (value : ByteText) :
    (choices.inFormat format).assign setting value =
      ((choices.inFormat .text).assign setting value).map (inFormat format) := by
  cases setting with
  | compiler =>
      cases chosen : choices.compiler <;> cases decoded : value.decode? <;>
        simp [assign, inFormat, chosen, decoded, Except.map]
  | directory =>
      cases chosen : choices.directory <;> by_cases empty : value = [] <;>
        simp [assign, inFormat, chosen, empty, Except.map]
  | output => rfl

theorem take_inFormat (item : ArgumentItem) :
    (choices.inFormat format).take item =
      ((choices.inFormat .text).take item).map (inFormat format) := by
  cases item with
  | flag flag =>
      cases flag <;> cases dry : choices.dryRun <;> cases verbose : choices.verbose <;>
        simp [take, raise, inFormat, dry, verbose, Except.map]
  | assigned setting value => exact assign_inFormat choices format setting value
  | valued setting value? =>
      cases value? with
      | none => rfl
      | some value =>
          rw [take, take]
          cases valueOf setting value with
          | error error => rfl
          | ok given => exact assign_inFormat choices format setting given
  | forwarded argument => rfl

theorem takeAll_inFormat (items : List ArgumentItem) :
    (choices.inFormat format).takeAll items =
      ((choices.inFormat .text).takeAll items).map (inFormat format) := by
  induction items generalizing choices with
  | nil => rfl
  | cons item rest induction =>
      -- What is taken in text is in text again, which the law says for that format.
      rw [takeAll, takeAll, take_inFormat choices format, take_inFormat choices .text]
      cases (choices.inFormat .text).take item with
      | error error => rfl
      | ok next => exact induction next

theorem assign_output :
    choices.assign .output (utf8 format.name) =
      if choices.output.isSome then .error (.repeated (.setting .output))
      else .ok (choices.inFormat format) := by
  have named := OutputFormat.ofName?_eq_some_iff.mpr (rfl : utf8 format.name = _)
  have nonempty : utf8 format.name ≠ [] := by cases format <;> decide
  simp only [assign, if_neg nonempty, named, inFormat]

theorem complete_inFormat (forwarded : List ByteText) (fromEnvironment : Option ByteText) :
    Options.complete (choices.inFormat format) forwarded fromEnvironment =
      (Options.complete choices forwarded fromEnvironment).map (Options.inFormat format) := by
  cases chosen : Options.chosenCompiler choices.compiler fromEnvironment <;>
    cases decoded : decodeAll? forwarded <;>
      simp [Options.complete, inFormat, Options.inFormat, chosen, decoded, Except.map]

end

end Choices

namespace Program

/-- Two lists of arguments ask for the same in different formats. -/
def DifferInFormat (environment : Environment) (inText inJson : List ByteText) : Prop :=
  ∃ options : Options,
    readOptions environment inText = .ok (options.inFormat .text) ∧
      readOptions environment inJson = .ok (options.inFormat .json)

inductive Requests (format : OutputFormat) : List ByteText → Prop
  | long : Requests format [utf8 "--output", utf8 format.name]
  | short : Requests format [utf8 "-o", utf8 format.name]
  | assigned : Requests format [utf8 ("--output=" ++ format.name)]

theorem Requests.reading {format : OutputFormat} {request : List ByteText}
    (requests : Requests format request) (after : List ByteText) :
    ∃ item, (∀ choices : Choices, choices.take item =
        choices.assign .output (utf8 format.name)) ∧ item.forwarded? = none ∧
      Reading.ofArguments (request ++ after) = (Reading.ofArguments after).withItem item := by
  have valued (choices : Choices) :
      choices.take (.valued .output (some (utf8 format.name))) =
        choices.assign .output (utf8 format.name) := by
    have isValue : Choices.valueOf .output (utf8 format.name) = .ok (utf8 format.name) := by
      cases format <;> decide
    simp only [Choices.take, isValue]
  cases requests with
  | long => exact ⟨_, valued, rfl, Reading.ofArguments_valued .output after⟩
  | short =>
      have setting : ArgumentKind.ofArgument (utf8 "-o") = .setting .output := by decide
      exact ⟨_, valued, rfl, by simp [Reading.ofArguments, setting]⟩
  | assigned =>
      have setting : ArgumentKind.ofArgument (utf8 ("--output=" ++ format.name)) =
          .assigned .output (utf8 format.name) := by cases format <;> decide
      exact ⟨.assigned .output (utf8 format.name), fun _ => rfl, rfl,
        by simp [Reading.ofArguments, setting]⟩

/-- Whichever format is asked for, and however it is, all else is read alike. -/
theorem readOptions_requests (environment : Environment) {before : List ByteText}
    (complete : isComplete before = true) (after : List ByteText) :
    ∃ read : Except ArgumentError Options, ∀ format request, Requests format request →
      readOptions environment (before ++ request ++ after) =
        read.map (Options.inFormat format) := by
  refine ⟨(Choices.unset.takeAll (Reading.ofArguments before).items).bind fun choices =>
    if choices.output.isSome then .error (.repeated (.setting .output))
    else
      ((choices.inFormat .text).takeAll (Reading.ofArguments after).items).bind fun final =>
        Options.complete final
          ((Reading.ofArguments before).items.filterMap ArgumentItem.forwarded? ++
            (Reading.ofArguments after).forwarded)
          (environment.get? compilerVariable), ?_⟩
  intro format request requests
  rcases requests.reading after with ⟨item, taken, notForwarded, reading⟩
  have forwarded : ((Reading.ofArguments before).items ++ item ::
      (Reading.ofArguments after).items).filterMap ArgumentItem.forwarded? =
      (Reading.ofArguments before).items.filterMap ArgumentItem.forwarded? ++
        (Reading.ofArguments after).items.filterMap ArgumentItem.forwarded? := by
    rw [List.filterMap_append, List.filterMap_cons, notForwarded]
  rw [readOptions, Options.ofArguments_eq, List.append_assoc,
    Reading.ofArguments_append complete, reading]
  simp only [Reading.withItem, Reading.forwarded, forwarded, Choices.takeAll_append,
    Choices.takeAll, taken, Choices.assign_output]
  cases Choices.unset.takeAll (Reading.ofArguments before).items with
  | error error => rfl
  | ok choices =>
      cases chosen : choices.output.isSome with
      | true => simp [chosen, Except.map, Except.bind]
      | false =>
          simp only [chosen, Except.bind, Bool.false_eq_true, if_false,
            Choices.takeAll_inFormat choices format]
          cases (choices.inFormat .text).takeAll (Reading.ofArguments after).items with
          | error error => rfl
          | ok final =>
              simp only [List.append_assoc]
              exact Choices.complete_inFormat final format _ _

theorem Requests.differInFormat {environment : Environment}
    {before after inText inJson : List ByteText} {options : Options}
    (complete : isComplete before = true) (text : Requests .text inText)
    (json : Requests .json inJson)
    (accepted : readOptions environment (before ++ inText ++ after) = .ok options) :
    DifferInFormat environment (before ++ inText ++ after) (before ++ inJson ++ after) := by
  rcases readOptions_requests environment complete after with ⟨read, alike⟩
  rw [alike .text inText text] at accepted
  cases read with
  | error error => cases accepted
  | ok found => exact ⟨found, alike .text inText text, alike .json inJson json⟩

/-! ## What a run does -/

section

variable {σ : Type} {machine : Machine σ} {arguments : List ByteText} {state : σ}
  {options : Options} {config : Config}

/-- What was done to a machine: the deeds, in order, and the state that they left. -/
def effect {α : Type} (performed : Performed σ α) : List Action × σ :=
  (deeds performed.actions, performed.state)

theorem runWith_effect (machine : Machine σ) (options : Options) (config : Config) (state : σ) :
    effect (runWith machine options config state) =
      if options.dryRun then ([], state) else effect (buildDirectory machine config state) := by
  cases dry : options.dryRun with
  | true =>
      rcases DryRun.perform_deeds machine config options.output state with ⟨deedless, unchanged⟩
      rw [effect, runWith_of_dryRun dry]
      cases came : (DryRun.perform machine config options.output state).result <;>
        simp [came, deedless, unchanged]
  | false =>
      rw [effect, runWith_of_build dry]
      cases came : (buildDirectory machine config state).result <;> simp [came, effect]

theorem runWith_result_of_build (machine : Machine σ) (config : Config) (state : σ)
    (wet : options.dryRun = false) :
    (runWith machine options config state).result =
      match (buildDirectory machine config state).result with
      | .ok outcome => outcome.exitCode
      | .error _ => 1 := by
  rw [runWith_of_build wet]
  cases came : (buildDirectory machine config state).result <;> simp only [came]

theorem runWith_result_of_dryRun (machine : Machine σ) (config : Config) (state : σ)
    (dry : options.dryRun = true) :
    ((runWith machine options config state).result = 0 ↔
      DryRun.Completes machine config options.output state) ∧
    ((runWith machine options config state).result = 1 ↔
      ¬ DryRun.Completes machine config options.output state) := by
  rw [← DryRun.perform_ok_iff options.output state, runWith_of_dryRun dry]
  cases came : (DryRun.perform machine config options.output state).result <;> simp [came]

theorem run_of_read (read : readOptions machine.environment arguments = .ok options)
    (state : σ) :
    effect (run machine arguments state) =
        (match configure machine options state with
          | .error _ => ([], state)
          | .ok config => effect (runWith machine options config state)) ∧
      (run machine arguments state).result =
        match configure machine options state with
        | .error _ => 1
        | .ok config => (runWith machine options config state).result := by
  rw [effect, run_of_options read]
  cases configured : configure machine options state <;> simp [effect]

end

/-! ## Both formats -/

section

variable {σ : Type}

/-- A dry run comes to a project, and no search path can hold the directory of the compiler.
To show the project in text takes the command that it is made with; in JSON it does not. -/
def StopsInTextOnly (machine : Machine σ) (inText : List ByteText) (state : σ) : Prop :=
  ∃ options config plan, Starts machine inText state options config ∧ options.dryRun = true ∧
    (discover machine config.directory config.platform state).result = .ok plan ∧
    (∃ entry ∈ plan.entries, entry.treatment = .make) ∧
    unwritableDirectory? config.compiler ≠ none

variable {machine : Machine σ} {state : σ}

theorem canShow_iff {config : Config} {environment : Environment} {entry : Entry} :
    DryRun.CanShow config environment entry ↔
      (entry.treatment = .make → unwritableDirectory? config.compiler = none) := by
  cases treated : entry.treatment with
  | compile | excluded | ignored => simp [DryRun.CanShow, DryRun.commandFor, treated]
  | make =>
      simp only [DryRun.CanShow, DryRun.commandFor, treated, forall_const]
      cases made : Command.make config entry.name environment with
      | ok command =>
          refine iff_of_true ⟨some command, rfl⟩ ?_
          rw [Option.eq_none_iff_forall_ne_some]
          intro directory unwritable
          have refused : Command.make config entry.name environment = .error _ :=
            Command.make_eq_error_iff.mpr ⟨directory, unwritable, rfl⟩
          cases made.symm.trans refused
      | error error =>
          rcases Command.make_eq_error_iff.mp made with ⟨directory, unwritable, _⟩
          simp [Except.map, unwritable]

theorem completes_text_iff {config : Config} {plan : Plan}
    (discovered : (discover machine config.directory config.platform state).result = .ok plan) :
    DryRun.Completes machine config .text state ↔
      ¬ ((∃ entry ∈ plan.entries, entry.treatment = .make) ∧
        unwritableDirectory? config.compiler ≠ none) := by
  simp only [DryRun.Completes, discovered, Except.ok.injEq, exists_eq_left', canShow_iff,
    forall_const]
  constructor
  · rintro writable ⟨⟨entry, member, treated⟩, unwritable⟩
    exact unwritable (writable entry member treated)
  · intro noProject entry member treated
    by_contra unwritable
    exact noProject ⟨⟨entry, member, treated⟩, unwritable⟩

theorem completes_inJson {config : Config}
    (completes : DryRun.Completes machine config .text state) :
    DryRun.Completes machine config .json state := by
  rcases completes with ⟨plan, discovered, _⟩
  exact ⟨plan, discovered, fun inText => OutputFormat.noConfusion inText⟩

theorem stopsInTextOnly_iff {inText : List ByteText} {options : Options} {config : Config}
    (starts : Starts machine inText state options config) :
    StopsInTextOnly machine inText state ↔ options.dryRun = true ∧
      DryRun.Completes machine config .json state ∧
      ¬ DryRun.Completes machine config .text state := by
  constructor
  · intro stops
    rcases stops with ⟨own, other, plan, startsSo, dry, discovered, unshowable⟩
    cases starts.read.symm.trans startsSo.read
    cases starts.config_eq startsSo
    exact ⟨dry, ⟨plan, discovered, fun inText => OutputFormat.noConfusion inText⟩,
      fun completes => (completes_text_iff discovered).mp completes unshowable⟩
  · intro stops
    rcases stops with ⟨dry, ⟨plan, discovered, _⟩, incomplete⟩
    exact ⟨options, config, plan, starts, dry, discovered,
      not_not.mp fun showable => incomplete ((completes_text_iff discovered).mpr showable)⟩

theorem runWith_result_formats (machine : Machine σ) (options : Options) (config : Config)
    (state : σ) :
    let text := (runWith machine (options.inFormat .text) config state).result
    let json := (runWith machine (options.inFormat .json) config state).result
    let stops := options.dryRun = true ∧ DryRun.Completes machine config .json state ∧
      ¬ DryRun.Completes machine config .text state
    (text = json ↔ ¬ stops) ∧ (stops → text = 1 ∧ json = 0) := by
  have wetCode (format : OutputFormat) (wet : options.dryRun = false) :=
    runWith_result_of_build machine config state ((options.dryRun_inFormat format).trans wet)
  have dryCode (format : OutputFormat) (dry : options.dryRun = true) :=
    runWith_result_of_dryRun machine config state ((options.dryRun_inFormat format).trans dry)
  simp only [Options.output_inFormat] at dryCode
  cases dry : options.dryRun with
  | false => simp [wetCode _ dry]
  | true =>
      have dryCode := fun format => dryCode format dry
      by_cases completes : DryRun.Completes machine config .text state
      · simp [completes, (dryCode .text).1.mpr completes,
          (dryCode .json).1.mpr (completes_inJson completes)]
      · by_cases completesJson : DryRun.Completes machine config .json state
        · simp [completes, completesJson, (dryCode .text).2.mpr completes,
            (dryCode .json).1.mpr completesJson]
        · simp [completesJson, (dryCode .text).2.mpr completes,
            (dryCode .json).2.mpr completesJson]

/-- Whatever the arguments, the machine and its state are, both formats do the same deeds and
leave the same state. They end with the same exit code as well, unless a dry run stops at a
project in text. -/
theorem run_in_either_format (machine : Machine σ) (state : σ) {inText inJson : List ByteText}
    (differ : DifferInFormat machine.environment inText inJson) :
    let text := run machine inText state
    let json := run machine inJson state
    deeds text.actions = deeds json.actions ∧ text.state = json.state ∧
      (text.result = json.result ↔ ¬ StopsInTextOnly machine inText state) ∧
      (StopsInTextOnly machine inText state → text.result = 1 ∧ json.result = 0) := by
  intro text json
  rcases differ with ⟨options, readText, readJson⟩
  rcases run_of_read readText state with ⟨textEffect, textResult⟩
  rcases run_of_read readJson state with ⟨jsonEffect, jsonResult⟩
  have configuredSo (format : OutputFormat) :
      configure machine (options.inFormat format) state = configure machine options state := rfl
  rw [configuredSo] at textEffect textResult jsonEffect jsonResult
  have sameEffect : effect text = effect json := by
    rw [textEffect, jsonEffect]
    cases configure machine options state with
    | error problem => rfl
    | ok config =>
        simp only [runWith_effect]
        rfl
  refine ⟨congrArg Prod.fst sameEffect, congrArg Prod.snd sameEffect, ?_⟩
  change text.result = _ at textResult
  change json.result = _ at jsonResult
  cases configured : configure machine options state with
  | error problem =>
      rw [configured] at textResult jsonResult
      have goesOn : ¬ StopsInTextOnly machine inText state := by
        rintro ⟨own, config, plan, starts, _⟩
        cases readText.symm.trans starts.read
        cases configured.symm.trans starts.configured
      exact ⟨iff_of_true (textResult.trans jsonResult.symm) goesOn,
        fun stops => absurd stops goesOn⟩
  | ok config =>
      rw [configured] at textResult jsonResult
      have starts : Starts machine inText state (options.inFormat .text) config :=
        ⟨readText, configured⟩
      rw [stopsInTextOnly_iff starts, textResult, jsonResult]
      exact runWith_result_formats machine options config state

end

end Program

/-! The project of the two sources stops a dry run in text: its compiler is in a directory
with a colon in its name. -/

namespace Rehearsal

open Program

def colonArguments (format : OutputFormat) : List ByteText :=
  [utf8 "--dry-run"] ++ [utf8 "--output", utf8 format.name] ++ [utf8 "--cx", utf8 "/a:b/cx"]

def colonOptions : Options := ⟨"/a:b/cx", none, true, .text, false, []⟩

theorem colonArguments_differInFormat :
    DifferInFormat tidyMachine.environment (colonArguments .text) (colonArguments .json) :=
  Requests.differInFormat (show isComplete [utf8 "--dry-run"] = true by decide) .long .long
    (show _ = Except.ok colonOptions by decide)

theorem colonArguments_exit_differently :
    DifferInFormat tidyMachine.environment (colonArguments .text) (colonArguments .json) ∧
      (run tidyMachine (colonArguments .text) twoSources).result = 1 ∧
      (run tidyMachine (colonArguments .json) twoSources).result = 0 :=
  ⟨colonArguments_differInFormat, by decide +kernel, by decide +kernel⟩

theorem colonArguments_in_either_format :
    let text := run tidyMachine (colonArguments .text) twoSources
    let json := run tidyMachine (colonArguments .json) twoSources
    StopsInTextOnly tidyMachine (colonArguments .text) twoSources ∧
      deeds text.actions = deeds json.actions ∧ text.result = 1 ∧ json.result = 0 := by
  have stops : StopsInTextOnly tidyMachine (colonArguments .text) twoSources :=
    ⟨colonOptions, { twoSourcesConfig with compiler := "/a:b/cx", extraArguments := [] },
      twoSourcesPlan, ⟨by decide +kernel, by rfl⟩, rfl, by rfl,
      ⟨⟨"p", .make⟩, by decide, rfl⟩, by decide +kernel⟩
  rcases run_in_either_format tidyMachine twoSources colonArguments_differInFormat with
    ⟨sameDeeds, _, _, codes⟩
  exact ⟨stops, sameDeeds, codes stops⟩

end Rehearsal

end ExampleBuild
