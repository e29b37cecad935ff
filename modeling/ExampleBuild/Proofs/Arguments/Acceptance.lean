import ExampleBuild.Proofs.Arguments.Choices

namespace ExampleBuild

/-! Which lists of arguments give options, and which options they give. -/

structure Reading.IsAcceptable (canBeValue : ByteText → Prop) (reading : Reading)
    (fromEnvironment : Option ByteText) : Prop where
  sound : ∀ item ∈ reading.items, item.IsSound canBeValue
  once : reading.uses.Nodup
  /-- What the environment names as the compiler is read only if no argument does. -/
  compiler : reading.values .compiler = [] →
    ∀ value, fromEnvironment = some value → value.IsText
  forwarded : ∀ argument ∈ reading.forwarded, argument.IsText

/-- The options are those of the items, with the defaults for what is not used. -/
structure Options.AreOf (options : Options) (reading : Reading)
    (fromEnvironment : Option ByteText) : Prop where
  compiler : utf8 options.compiler =
    ((reading.values .compiler).head?.or fromEnvironment).getD (utf8 Config.defaultCompiler)
  directory : options.directory = (reading.values .directory).head?
  output : utf8 options.output.name = (reading.values .output).head?.getD (utf8 "text")
  dryRun : options.dryRun = true ↔ .flag .dryRun ∈ reading.uses
  verbose : options.verbose = true ↔ .flag .verbose ∈ reading.uses
  forwarded : options.forwarded.map utf8 = reading.forwarded

/-! ## Completing the choices -/

theorem decodeAll?_eq_some_iff {arguments : List ByteText} {texts : List String} :
    decodeAll? arguments = some texts ↔ texts.map utf8 = arguments := by
  induction arguments generalizing texts with
  | nil => simp [decodeAll?, eq_comm]
  | cons bytes rest induction =>
      cases texts with
      | nil =>
          simp only [decodeAll?, List.map_nil]
          split <;> simp
      | cons text texts =>
          simp only [decodeAll?, List.map_cons, List.cons.injEq, ← induction,
            ← ByteText.decode?_eq_some_iff]
          cases bytes.decode? <;> cases decodeAll? rest <;> simp

theorem exists_decodeAll?_iff {arguments : List ByteText} :
    (∃ texts, decodeAll? arguments = some texts) ↔ ∀ argument ∈ arguments, argument.IsText := by
  simp only [decodeAll?_eq_some_iff]
  induction arguments with
  | nil => simp
  | cons bytes rest induction =>
      rw [List.forall_mem_cons, ← induction]
      constructor
      · intro decoded
        rcases decoded with ⟨texts, spelled⟩
        rcases List.map_eq_cons_iff.mp spelled with ⟨text, others, rfl, first, after⟩
        exact ⟨⟨text, first⟩, ⟨others, after⟩⟩
      · intro spelled
        rcases spelled with ⟨⟨text, rfl⟩, ⟨others, rfl⟩⟩
        exact ⟨text :: others, rfl⟩

namespace Options

variable {choices : Choices} {forwarded : List ByteText} {fromEnvironment : Option ByteText}

theorem chosenCompiler_eq_ok_iff {compiler : String} :
    chosenCompiler choices.compiler fromEnvironment = .ok compiler ↔
      utf8 compiler =
        ((choices.given .compiler).or fromEnvironment).getD (utf8 Config.defaultCompiler) := by
  have same (left right : String) : utf8 left = utf8 right ↔ right = left :=
    ⟨fun equal => (utf8_injective equal).symm, fun equal => by rw [equal]⟩
  cases chosen : choices.compiler with
  | some text => simp [chosenCompiler, Choices.given, chosen, same]
  | none =>
      cases fromEnvironment with
      | none => simp [chosenCompiler, Choices.given, chosen, same]
      | some value =>
          simp only [chosenCompiler, Choices.given, chosen, Option.map_none, Option.none_or,
            Option.getD_some, ← ByteText.decode?_eq_some_iff]
          cases value.decode? <;> simp

theorem exists_chosenCompiler_iff :
    (∃ compiler, chosenCompiler choices.compiler fromEnvironment = .ok compiler) ↔
      (choices.given .compiler = none →
        ∀ value, fromEnvironment = some value → value.IsText) := by
  simp only [chosenCompiler_eq_ok_iff]
  cases chosen : choices.compiler with
  | some text => simp [Choices.given, chosen]
  | none =>
      cases fromEnvironment with
      | none => simp [Choices.given, chosen]
      | some value => simp [Choices.given, chosen, ByteText.IsText]

theorem complete_eq_ok_iff {options : Options} :
    complete choices forwarded fromEnvironment = .ok options ↔
      chosenCompiler choices.compiler fromEnvironment = .ok options.compiler ∧
        decodeAll? forwarded = some options.forwarded ∧
          options.directory = choices.directory ∧ options.dryRun = choices.dryRun ∧
            options.output = choices.output.getD .text ∧ options.verbose = choices.verbose := by
  rcases options with ⟨compiler, directory, dryRun, output, verbose, texts⟩
  cases chosen : chosenCompiler choices.compiler fromEnvironment with
  | error error => simp [complete, chosen]
  | ok own =>
      cases decoded : decodeAll? forwarded with
      | none => simp [complete, chosen, decoded]
      | some own =>
          simp only [complete, chosen, decoded, Except.ok.injEq, Options.mk.injEq,
            Option.some.injEq]
          constructor
          · intro same
            rcases same with ⟨rfl, rfl, rfl, rfl, rfl, rfl⟩
            simp
          · intro same
            rcases same with ⟨rfl, rfl, rfl, rfl, rfl, rfl⟩
            simp

/-! ## All arguments -/

theorem ofArguments_eq (arguments : List ByteText) (fromEnvironment : Option ByteText) :
    ofArguments arguments fromEnvironment =
      match Choices.unset.takeAll (Reading.ofArguments arguments).items with
      | .error error => .error error
      | .ok choices =>
          complete choices (Reading.ofArguments arguments).forwarded fromEnvironment := by
  rw [ofArguments, ofArranged, arranged, Division.arranged, Choices.read_arranged,
    Division.forwarded_ofArguments]
  cases Choices.unset.takeAll (Reading.ofArguments arguments).items <;> rfl

theorem ofArguments_eq_ok_iff {arguments : List ByteText} {options : Options} :
    ofArguments arguments fromEnvironment = .ok options ↔
      ∃ choices, Choices.unset.takeAll (Reading.ofArguments arguments).items = .ok choices ∧
        complete choices (Reading.ofArguments arguments).forwarded fromEnvironment =
          .ok options := by
  rw [ofArguments_eq]
  cases Choices.unset.takeAll (Reading.ofArguments arguments).items <;> simp

theorem given_eq_head? {reading : Reading}
    (taken : Choices.unset.takeAll reading.items = .ok choices) (setting : Setting) :
    choices.given setting = (reading.values setting).head? := by
  have given := (Choices.takeAll_extends taken).given setting
  have nothing : (Choices.unset.given setting).toList = [] := by cases setting <;> rfl
  rw [nothing, List.nil_append] at given
  rw [Reading.values, ← given, Option.head?_toList]

theorem has_iff {reading : Reading} (taken : Choices.unset.takeAll reading.items = .ok choices)
    (option : OwnOption) : choices.Has option ↔ option ∈ reading.uses := by
  rw [(Choices.takeAll_extends taken).has, or_iff_right (Choices.unset_has option), Reading.uses]

theorem exists_takeAll_iff {reading : Reading} :
    (∃ choices, Choices.unset.takeAll reading.items = .ok choices) ↔
      (∀ item ∈ reading.items, item.IsSound CanBeValue) ∧ reading.uses.Nodup := by
  rw [Choices.takeAll_ok_iff, Reading.uses]
  apply and_congr_right
  intro sound
  apply and_iff_left
  intro option used
  exact Choices.unset_has option

theorem areOf_of_complete {reading : Reading} {options : Options}
    (taken : Choices.unset.takeAll reading.items = .ok choices)
    (completed : complete choices reading.forwarded fromEnvironment = .ok options) :
    options.AreOf reading fromEnvironment := by
  rcases complete_eq_ok_iff.mp completed with
    ⟨compiler, texts, directory, dryRun, output, verbose⟩
  have has := has_iff taken
  have given := given_eq_head? taken
  refine ⟨?_, ?_, ?_, ?_, ?_, decodeAll?_eq_some_iff.mp texts⟩
  · rw [← given]
    exact chosenCompiler_eq_ok_iff.mp compiler
  · rw [← given]
    exact directory
  · rw [← given, output, Choices.given]
    cases choices.output <;> rfl
  · rw [← has, dryRun, Choices.Has]
  · rw [← has, verbose, Choices.Has]

/-- Arguments read in one way. They give options exactly if they read as acceptable items, and
then the options are those of the items. -/
theorem ofArguments_accepts_iff (arguments : List ByteText)
    (fromEnvironment : Option ByteText) :
    ∃ reading, (∀ other, Reading.Reads arguments other ↔ other = reading) ∧
      ((∃ options, ofArguments arguments fromEnvironment = .ok options) ↔
        reading.IsAcceptable CanBeValue fromEnvironment) ∧
      ∀ options, ofArguments arguments fromEnvironment = .ok options →
        options.AreOf reading fromEnvironment := by
  refine ⟨Reading.ofArguments arguments, fun other => Reading.reads_iff, ⟨?_, ?_⟩, ?_⟩
  · intro given
    rcases given with ⟨options, accepted⟩
    rcases ofArguments_eq_ok_iff.mp accepted with ⟨choices, taken, completed⟩
    rcases complete_eq_ok_iff.mp completed with ⟨compiler, texts, -⟩
    rcases exists_takeAll_iff.mp ⟨choices, taken⟩ with ⟨sound, once⟩
    refine ⟨sound, once, fun unused => ?_, exists_decodeAll?_iff.mp ⟨_, texts⟩⟩
    apply exists_chosenCompiler_iff.mp ⟨_, compiler⟩
    rw [given_eq_head? taken, unused, List.head?_nil]
  · intro acceptable
    rcases exists_takeAll_iff.mpr ⟨acceptable.sound, acceptable.once⟩ with ⟨choices, taken⟩
    rcases exists_decodeAll?_iff.mpr acceptable.forwarded with ⟨texts, decoded⟩
    rcases exists_chosenCompiler_iff.mpr fun notGiven =>
      acceptable.compiler (List.head?_eq_none_iff.mp
        ((given_eq_head? taken .compiler).symm.trans notGiven)) with ⟨compiler, chosen⟩
    refine ⟨⟨compiler, choices.directory, choices.dryRun, choices.output.getD .text,
      choices.verbose, texts⟩, ofArguments_eq_ok_iff.mpr ⟨choices, taken, ?_⟩⟩
    exact complete_eq_ok_iff.mpr ⟨chosen, decoded, rfl, rfl, rfl, rfl⟩
  · intro options accepted
    rcases ofArguments_eq_ok_iff.mp accepted with ⟨choices, taken, completed⟩
    exact areOf_of_complete taken completed

/-- A value whose name cannot be read is taken for an option that is not known. -/
theorem ofArguments_unreadableName :
    let value : ByteText := [45, 45, 255]
    let reading : Reading := ⟨[.valued .directory (some value)], []⟩
    (∀ other, Reading.Reads [utf8 "-C", value] other ↔ other = reading) ∧
      reading.IsAcceptable
        (fun argument => argument ≠ ArgumentKind.separatorText ∧ ¬ LooksOwn argument) none ∧
      ¬ ∃ options, ofArguments [utf8 "-C", value] none = .ok options := by
  intro value reading
  have reads : Reading.ofArguments [utf8 "-C", value] = reading := rfl
  have refused : ofArguments [utf8 "-C", value] none = .error (.unknownOption value) := rfl
  have notOwn : ¬ LooksOwn value := by
    have unspelled : ∀ option ∈ OwnOption.all, ¬ option.longSpelling <+: value := by
      decide +kernel
    intro looks
    rcases looks with ⟨option, same | ⟨value, same⟩⟩ | ⟨letters, -, same, known⟩
    · exact unspelled option option.mem_all ⟨[], by rw [List.append_nil, same]⟩
    · exact unspelled option option.mem_all ⟨_, same.symm⟩
    · have hyphen : (45 : UInt8) ∈ letters := by
        rw [← (List.cons.inj same).2]
        exact List.mem_cons_self
      exact absurd (known 45 hyphen) (by decide)
  refine ⟨fun other => reads ▸ Reading.reads_iff, ⟨?_, ?_, ?_, ?_⟩, by rw [refused]; nofun⟩
  · intro item member
    cases List.mem_singleton.mp member
    exact ⟨⟨by decide, notOwn⟩, List.cons_ne_nil _ _⟩
  · decide
  · exact fun _ => nofun
  · exact nofun

end Options

end ExampleBuild
