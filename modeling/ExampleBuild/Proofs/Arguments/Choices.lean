import ExampleBuild.Proofs.Arguments.Reading
import Mathlib.Data.List.Nodup
import Mathlib.Logic.Function.Basic

namespace ExampleBuild

/-! Taking items one after the other. Every item must be sound on its own, and no option
may come twice; nothing else can go wrong. -/

/-! ## Sound items -/

namespace OutputFormat

def name : OutputFormat → String
  | .text => "text"
  | .json => "json"

theorem ofName?_eq_some_iff {name : ByteText} {format : OutputFormat} :
    ofName? name = some format ↔ name = utf8 format.name := by
  have different : utf8 "json" ≠ utf8 "text" := by decide
  unfold ofName?
  split
  · next text => cases format <;> simp [text, OutputFormat.name, different.symm]
  · next notText =>
      split
      · next json => cases format <;> simp [json, OutputFormat.name, different]
      · next notJson => cases format <;> simp [OutputFormat.name, notText, notJson]

theorem ofName?_ne_none_iff {name : ByteText} :
    ofName? name ≠ none ↔ name = utf8 "text" ∨ name = utf8 "json" := by
  rw [Option.ne_none_iff_exists']
  simp only [ofName?_eq_some_iff]
  constructor
  · intro known
    rcases known with ⟨format, named⟩
    cases format with
    | text => exact .inl named
    | json => exact .inr named
  · intro named
    rcases named with named | named
    · exact ⟨.text, named⟩
    · exact ⟨.json, named⟩

end OutputFormat

def Setting.Admits (value : ByteText) : Setting → Prop
  | .compiler => value.IsText
  | .directory => value ≠ []
  | .output => value = utf8 "text" ∨ value = utf8 "json"

/-- An item that raises no error on its own, where the argument after a setting must be one
that can be a value. -/
def ArgumentItem.IsSound (canBeValue : ByteText → Prop) : ArgumentItem → Prop
  | .flag own => own ≠ .help ∧ own ≠ .version
  | .assigned setting value => setting.Admits value
  | .valued _ none => False
  | .valued setting (some value) => canBeValue value ∧ setting.Admits value
  | .forwarded _ => True

/-! ## One item -/

namespace Choices

def given (choices : Choices) : Setting → Option ByteText
  | .compiler => choices.compiler.map utf8
  | .directory => choices.directory
  | .output => choices.output.map fun format => utf8 format.name

def Has (choices : Choices) : OwnOption → Prop
  | .flag .dryRun => choices.dryRun = true
  | .flag .verbose => choices.verbose = true
  | .flag .help | .flag .version => False
  | .setting setting => choices.given setting ≠ none

theorem unset_has (option : OwnOption) : ¬ unset.Has option := by
  rcases option with flag | setting
  · cases flag <;> simp [Has, unset]
  · cases setting <;> simp [Has, given, unset]

structure Extends (before after : Choices) (items : List ArgumentItem) : Prop where
  has : ∀ option, after.Has option ↔
    before.Has option ∨ option ∈ items.filterMap ArgumentItem.use?
  given : ∀ setting, (after.given setting).toList =
    (before.given setting).toList ++ items.filterMap (ArgumentItem.valueFor? setting)

theorem Extends.trans {before between after : Choices} {earlier later : List ArgumentItem}
    (first : Extends before between earlier) (second : Extends between after later) :
    Extends before after (earlier ++ later) where
  has option := by
    rw [second.has, first.has, List.filterMap_append, List.mem_append, or_assoc]
  given setting := by
    rw [second.given, first.given, List.filterMap_append, List.append_assoc]

theorem raise_ok_iff {choices : Choices} {own : Flag} :
    (∃ next, choices.raise own = .ok next) ↔
      (own ≠ .help ∧ own ≠ .version) ∧ ¬ choices.Has (.flag own) := by
  cases own with
  | help => simp [raise]
  | version => simp [raise]
  | dryRun => cases raised : choices.dryRun <;> simp [raise, raised, Has]
  | verbose => cases raised : choices.verbose <;> simp [raise, raised, Has]

private theorem extends_flag {choices next : Choices} {own : Flag}
    (has : ∀ flag, next.Has (.flag flag) ↔ choices.Has (.flag flag) ∨ flag = own)
    (same : next.given = choices.given) : Extends choices next [.flag own] := by
  constructor
  · intro option
    rcases option with flag | setting
    · simpa [ArgumentItem.use?] using has flag
    · simp [Has, same, ArgumentItem.use?]
  · intro setting
    simp [same, ArgumentItem.valueFor?, ArgumentItem.use?]

theorem raise_extends {choices next : Choices} {own : Flag}
    (raised : choices.raise own = .ok next) : Extends choices next [.flag own] := by
  cases own with
  | help => cases raised
  | version => cases raised
  | dryRun =>
      cases used : choices.dryRun <;> simp only [raise, used] at raised
      · cases raised
        exact extends_flag (by intro flag; cases flag <;> simp [Has]) rfl
      · cases raised
  | verbose =>
      cases used : choices.verbose <;> simp only [raise, used] at raised
      · cases raised
        exact extends_flag (by intro flag; cases flag <;> simp [Has]) rfl
      · cases raised

theorem assign_ok_iff {choices : Choices} {setting : Setting} {value : ByteText} :
    (∃ next, choices.assign setting value = .ok next) ↔
      setting.Admits value ∧ ¬ choices.Has (.setting setting) := by
  cases setting with
  | compiler =>
      rw [Setting.Admits, ByteText.isText_iff]
      cases used : choices.compiler <;> cases decoded : value.decode? <;>
        simp [assign, Has, given, used, decoded]
  | directory =>
      rw [Setting.Admits]
      cases used : choices.directory <;> by_cases empty : value = [] <;>
        simp [assign, Has, given, used, empty]
  | output =>
      rw [Setting.Admits, ← OutputFormat.ofName?_ne_none_iff]
      have emptyName : OutputFormat.ofName? [] = none := by decide
      cases used : choices.output <;> by_cases empty : value = [] <;>
        cases named : OutputFormat.ofName? value <;>
        simp_all [assign, Has, given]

theorem given_withCompiler (choices : Choices) (compiler : String) :
    given { choices with compiler := some compiler } =
      Function.update choices.given .compiler (some (utf8 compiler)) := by
  funext setting
  cases setting <;> rfl

theorem given_withDirectory (choices : Choices) (directory : Path) :
    given { choices with directory := some directory } =
      Function.update choices.given .directory (some directory) := by
  funext setting
  cases setting <;> rfl

theorem given_withOutput (choices : Choices) (output : OutputFormat) :
    given { choices with output := some output } =
      Function.update choices.given .output (some (utf8 output.name)) := by
  funext setting
  cases setting <;> rfl

private theorem has_flag {choices next : Choices} (dryRun : next.dryRun = choices.dryRun)
    (verbose : next.verbose = choices.verbose) (own : Flag) :
    next.Has (.flag own) ↔ choices.Has (.flag own) := by
  cases own <;> simp [Has, dryRun, verbose]

theorem assign_eq_ok {choices next : Choices} {setting : Setting} {value : ByteText}
    (assigned : choices.assign setting value = .ok next) :
    choices.given setting = none ∧
      next.given = Function.update choices.given setting (some value) ∧
      ∀ own, next.Has (.flag own) ↔ choices.Has (.flag own) := by
  have unused := (assign_ok_iff.mp ⟨next, assigned⟩).2
  refine ⟨by simpa [Has] using unused, ?_⟩
  cases setting with
  | compiler =>
      simp only [assign] at assigned
      split at assigned
      · cases assigned
      split at assigned
      · next compiler decoded =>
          cases assigned
          rw [given_withCompiler, ByteText.utf8_eq_of_decode? decoded]
          exact ⟨rfl, has_flag rfl rfl⟩
      · cases assigned
  | directory =>
      simp only [assign] at assigned
      split at assigned
      · cases assigned
      split at assigned
      · cases assigned
      · cases assigned
        exact ⟨given_withDirectory choices value, has_flag rfl rfl⟩
  | output =>
      simp only [assign] at assigned
      split at assigned
      · cases assigned
      split at assigned
      · cases assigned
      split at assigned
      · next format named =>
          cases assigned
          rw [given_withOutput, ← OutputFormat.ofName?_eq_some_iff.mp named]
          exact ⟨rfl, has_flag rfl rfl⟩
      · cases assigned

theorem assign_extends {choices next : Choices} {setting : Setting} {value : ByteText}
    {item : ArgumentItem} (use : item.use? = some (.setting setting))
    (gives : item.value? = some value) (assigned : choices.assign setting value = .ok next) :
    Extends choices next [item] := by
  rcases assign_eq_ok assigned with ⟨before, after, flags⟩
  constructor
  · intro option
    rcases option with flag | other
    · simp [flags, use]
    · by_cases same : other = setting
      · subst same
        simp [Has, after, use]
      · simp [Has, after, use, same]
  · intro other
    by_cases same : other = setting
    · subst same
      simp [before, after, ArgumentItem.valueFor?, use, gives]
    · have different : ¬ setting = other := fun equal => same equal.symm
      simp [after, Function.update_of_ne same, ArgumentItem.valueFor?, use, different]

theorem take_valued_eq_ok_iff {choices next : Choices} {setting : Setting}
    {argument : ByteText} :
    choices.take (.valued setting (some argument)) = .ok next ↔
      CanBeValue argument ∧ choices.assign setting argument = .ok next := by
  rw [← Occurrence.ofArgument_eq_operand_iff, take, valueOf]
  cases Occurrence.ofArgument argument <;> simp

theorem take_ok_iff {choices : Choices} {item : ArgumentItem} :
    (∃ next, choices.take item = .ok next) ↔
      item.IsSound CanBeValue ∧ ∀ option, item.use? = some option → ¬ choices.Has option := by
  cases item with
  | flag own => simp [take, raise_ok_iff, ArgumentItem.IsSound, ArgumentItem.use?]
  | assigned setting value =>
      simp [take, assign_ok_iff, ArgumentItem.IsSound, ArgumentItem.use?]
  | forwarded argument => simp [take, ArgumentItem.IsSound, ArgumentItem.use?]
  | valued setting value? =>
      cases value? with
      | none => simp [take, ArgumentItem.IsSound]
      | some argument =>
          simp only [take_valued_eq_ok_iff, exists_and_left, assign_ok_iff,
            ArgumentItem.IsSound, ArgumentItem.use?, Option.some.injEq, forall_eq', and_assoc]

theorem take_extends {choices next : Choices} {item : ArgumentItem}
    (taken : choices.take item = .ok next) : Extends choices next [item] := by
  cases item with
  | flag own => exact raise_extends taken
  | assigned setting value => exact assign_extends rfl rfl taken
  | forwarded argument =>
      cases taken
      exact ⟨by simp [ArgumentItem.use?], by simp [ArgumentItem.valueFor?, ArgumentItem.use?]⟩
  | valued setting value? =>
      cases value? with
      | none => cases taken
      | some argument => exact assign_extends rfl rfl (take_valued_eq_ok_iff.mp taken).2

/-! ## All items -/

theorem takeAll_extends {choices final : Choices} {items : List ArgumentItem}
    (taken : choices.takeAll items = .ok final) : Extends choices final items := by
  induction items generalizing choices with
  | nil =>
      cases taken
      exact ⟨by simp, by simp⟩
  | cons item rest induction =>
      rcases takeAll_eq_ok_iff.mp taken with ⟨next, first, onward⟩
      exact (take_extends first).trans (induction onward)

/-- The items can be taken exactly if each is sound and no option comes twice, what the
choices have counting as used. -/
theorem takeAll_ok_iff {choices : Choices} {items : List ArgumentItem} :
    (∃ final, choices.takeAll items = .ok final) ↔
      (∀ item ∈ items, item.IsSound CanBeValue) ∧
        (items.filterMap ArgumentItem.use?).Nodup ∧
          ∀ option ∈ items.filterMap ArgumentItem.use?, ¬ choices.Has option := by
  induction items generalizing choices with
  | nil => simp [takeAll]
  | cons item rest induction =>
      have uses : (item :: rest).filterMap ArgumentItem.use? =
          item.use?.toList ++ rest.filterMap ArgumentItem.use? := by
        cases use : item.use? <;> simp [use]
      rw [uses, List.nodup_append, List.forall_mem_cons]
      simp only [List.mem_append, Option.mem_toList]
      constructor
      · intro all
        rcases all with ⟨final, taken⟩
        rcases takeAll_eq_ok_iff.mp taken with ⟨next, first, onward⟩
        rcases take_ok_iff.mp ⟨next, first⟩ with ⟨soundFirst, unusedFirst⟩
        rcases induction.mp ⟨final, onward⟩ with ⟨sound, once, unused⟩
        have has := (take_extends first).has
        refine ⟨⟨soundFirst, sound⟩, ⟨by cases item.use? <;> simp, once, ?_⟩, ?_⟩
        · intro own isOwn other later same
          subst same
          exact unused own later ((has own).mpr (.inr (by simpa using isOwn)))
        · intro option used had
          rcases used with isOwn | later
          · exact unusedFirst option isOwn had
          · exact unused option later ((has option).mpr (.inl had))
      · intro fits
        rcases fits with ⟨⟨soundFirst, sound⟩, ⟨-, once, apart⟩, unused⟩
        rcases take_ok_iff.mpr
          ⟨soundFirst, fun option isOwn => unused option (.inl isOwn)⟩ with ⟨next, first⟩
        have has := (take_extends first).has
        have stillUnused : ∀ option ∈ rest.filterMap ArgumentItem.use?,
            ¬ next.Has option := by
          intro option later had
          rcases (has option).mp had with before | isOwn
          · exact unused option (.inr later) before
          · exact apart option (by simpa using isOwn) option later rfl
        rcases induction.mpr ⟨sound, once, stillUnused⟩ with ⟨final, onward⟩
        exact ⟨final, takeAll_eq_ok_iff.mpr ⟨next, first, onward⟩⟩

end Choices

end ExampleBuild
