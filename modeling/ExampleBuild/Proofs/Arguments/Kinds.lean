import ExampleBuild.Proofs.Arguments.Spelling

namespace ExampleBuild

/-! What an argument is, said by how it is spelled. The tables of spellings hold those of the
options and no others, so each argument is of one kind. -/

open OwnOption (equalsSign)

namespace ArgumentKind

variable {argument : ByteText}

/-! ## The tables -/

theorem mem_spellings_of_flag : ∀ entry ∈ flagSpellings,
    entry.1 ∈ (OwnOption.flag entry.2).spellings := by
  decide +kernel

theorem mem_spellings_of_setting : ∀ entry ∈ settingSpellings,
    entry.1 ∈ (OwnOption.setting entry.2).spellings := by
  decide +kernel

theorem longSpelling_mem (setting : Setting) :
    (setting.longSpelling, setting) ∈ settingSpellings := by
  cases setting <;> decide +kernel

theorem eq_longSpelling : ∀ entry ∈ settingSpellings,
    separatorText <+: entry.1 → entry.1 = entry.2.longSpelling := by
  decide +kernel

theorem lookup_eq_none {α : Type} {entries : List (ByteText × α)}
    (absent : ∀ entry ∈ entries, entry.1 ≠ argument) : entries.lookup argument = none := by
  rw [List.lookup_eq_none_iff]
  intro entry member
  simpa using (absent entry member).symm

/-! ## Assignments -/

theorem assignedValue?_eq_some_iff {spelling value : ByteText} :
    assignedValue? argument spelling = some value ↔
      separatorText <+: spelling ∧ argument = spelling ++ equalsSign :: value := by
  unfold assignedValue?
  simp only [Bool.and_eq_true, List.isPrefixOf_iff_prefix]
  split
  · next begins =>
      rcases begins with ⟨long, rest, rfl⟩
      simp [long]
  · next other =>
      constructor
      · nofun
      · intro assigned
        rcases assigned with ⟨long, rfl⟩
        exact absurd ⟨long, value, by simp⟩ other

theorem assignment?_eq_some_iff {setting : Setting} {value : ByteText} :
    assignment? argument = some (setting, value) ↔
      argument.IsText ∧ argument = setting.assignment value := by
  unfold assignment?
  rw [ByteText.isText_iff]
  split
  · next unreadable => simp [unreadable]
  · next readable =>
      have sound {found : Setting × ByteText}
          (assigned : settingSpellings.findSome? (fun entry =>
            (assignedValue? argument entry.1).map fun value => (entry.2, value)) = some found) :
          argument = found.1.assignment found.2 := by
        rcases List.exists_of_findSome?_eq_some assigned with ⟨entry, member, value?⟩
        rcases Option.map_eq_some_iff.mp value? with ⟨value, isValue, rfl⟩
        rcases assignedValue?_eq_some_iff.mp isValue with ⟨long, same⟩
        rwa [eq_longSpelling entry member long] at same
      refine ⟨fun assigned => ⟨readable, sound assigned⟩, fun ⟨_, spelled⟩ => ?_⟩
      cases assigned : settingSpellings.findSome? fun entry =>
          (assignedValue? argument entry.1).map fun value => (entry.2, value) with
      | none =>
          have nowhere := List.findSome?_eq_none_iff.mp assigned _ (longSpelling_mem setting)
          have long : separatorText <+: setting.longSpelling := by
            rw [Setting.longSpelling, OwnOption.longSpelling_eq]
            exact ⟨_, rfl⟩
          rw [assignedValue?_eq_some_iff.mpr ⟨long, spelled⟩] at nowhere
          cases nowhere
      | some found =>
          -- The first entry that fits is the only one, since an assignment is cut in one way.
          rcases Setting.assignment_injective ((sound assigned).symm.trans spelled) with
            ⟨sameSetting, sameValue⟩
          rw [← sameSetting, ← sameValue]

/-! ## Kinds -/

structure IsForeign (argument : ByteText) : Prop where
  notSeparator : argument ≠ separatorText
  unspelled : ∀ option : OwnOption, argument ∉ option.spellings
  unassigned : ∀ (setting : Setting) value, value.IsText → argument ≠ setting.assignment value

inductive IsOfKind (argument : ByteText) : ArgumentKind → Prop
  | separator (same : argument = separatorText) : IsOfKind argument .separator
  | flag {own : Flag} (spelled : argument ∈ (OwnOption.flag own).spellings) :
      IsOfKind argument (.flag own)
  | setting {own : Setting} (spelled : argument ∈ (OwnOption.setting own).spellings) :
      IsOfKind argument (.setting own)
  | assigned {own : Setting} {value : ByteText} (isText : value.IsText)
      (same : argument = own.assignment value) : IsOfKind argument (.assigned own value)
  | forwarded (foreign : IsForeign argument) : IsOfKind argument .forwarded

def ofOption : OwnOption → ArgumentKind
  | .flag own => .flag own
  | .setting own => .setting own

private theorem spellings_kind : ∀ option ∈ OwnOption.all, ∀ argument ∈ option.spellings,
    ofArgument argument = ofOption option := by
  decide +kernel

theorem ofArgument_of_spelled {option : OwnOption} (spelled : argument ∈ option.spellings) :
    ofArgument argument = ofOption option :=
  spellings_kind option option.mem_all argument spelled

theorem ofArgument_of_unspelled (notSeparator : argument ≠ separatorText)
    (unspelled : ∀ option : OwnOption, argument ∉ option.spellings) :
    ofArgument argument =
      match assignment? argument with
      | some (own, value) => .assigned own value
      | none => .forwarded := by
  have noFlag : flagSpellings.lookup argument = none := lookup_eq_none fun entry member same =>
    unspelled _ (same ▸ mem_spellings_of_flag entry member)
  have noSetting : settingSpellings.lookup argument = none :=
    lookup_eq_none fun entry member same =>
      unspelled _ (same ▸ mem_spellings_of_setting entry member)
  cases assigned : assignment? argument <;>
    simp [ofArgument, notSeparator, noFlag, noSetting, assigned]

theorem ofArgument_of_isOfKind {kind : ArgumentKind} (isOfKind : IsOfKind argument kind) :
    ofArgument argument = kind := by
  cases isOfKind with
  | separator same => exact if_pos same
  | flag spelled => exact ofArgument_of_spelled spelled
  | setting spelled => exact ofArgument_of_spelled spelled
  | assigned isText same =>
      subst same
      rw [ofArgument_of_unspelled Setting.assignment_ne_separator
        Setting.assignment_not_mem_spellings,
        assignment?_eq_some_iff.mpr ⟨Setting.isText_assignment_iff.mpr isText, rfl⟩]
  | forwarded foreign =>
      rw [ofArgument_of_unspelled foreign.notSeparator foreign.unspelled]
      cases assigned : assignment? argument with
      | none => rfl
      | some found =>
          rcases assignment?_eq_some_iff.mp assigned with ⟨isText, same⟩
          rw [same, Setting.isText_assignment_iff] at isText
          exact absurd same (foreign.unassigned _ _ isText)

theorem exists_isOfKind (argument : ByteText) : ∃ kind, IsOfKind argument kind := by
  by_cases separator : argument = separatorText
  · exact ⟨_, .separator separator⟩
  by_cases spelled : ∃ option : OwnOption, argument ∈ option.spellings
  · rcases spelled with ⟨own | own, spelled⟩
    · exact ⟨_, .flag spelled⟩
    · exact ⟨_, .setting spelled⟩
  by_cases assigned : ∃ (setting : Setting) (value : ByteText),
      value.IsText ∧ argument = setting.assignment value
  · rcases assigned with ⟨setting, value, isText, same⟩
    exact ⟨_, .assigned isText same⟩
  · exact ⟨_, .forwarded ⟨separator, fun option member => spelled ⟨option, member⟩,
      fun setting value isText same => assigned ⟨setting, value, isText, same⟩⟩⟩

/-- How an argument is spelled says of which kind it is, and each is of one kind. -/
theorem ofArgument_eq_iff {kind : ArgumentKind} :
    ofArgument argument = kind ↔ IsOfKind argument kind := by
  refine ⟨fun same => ?_, ofArgument_of_isOfKind⟩
  rcases exists_isOfKind argument with ⟨own, isOwn⟩
  rwa [← same, ofArgument_of_isOfKind isOwn]

theorem ofArgument_separator : ofArgument separatorText = .separator := if_pos rfl

theorem ofArgument_eq_separator_iff :
    ofArgument argument = .separator ↔ argument = separatorText := by
  rw [ofArgument_eq_iff]
  exact ⟨fun | .separator same => same, .separator⟩

theorem ofArgument_longSpelling (setting : Setting) :
    ofArgument setting.longSpelling = .setting setting :=
  ofArgument_of_isOfKind (.setting List.mem_cons_self)

theorem ofArgument_assignment {setting : Setting} {value : ByteText} (isText : value.IsText) :
    ofArgument (setting.assignment value) = .assigned setting value :=
  ofArgument_of_isOfKind (.assigned isText rfl)

theorem ofArgument_assignment_of_not_isText {setting : Setting} {value : ByteText}
    (unreadable : ¬ value.IsText) : ofArgument (setting.assignment value) = .forwarded := by
  refine ofArgument_of_isOfKind (.forwarded ⟨Setting.assignment_ne_separator,
    Setting.assignment_not_mem_spellings, fun other otherValue isText same => ?_⟩)
  rw [(Setting.assignment_injective same).2] at unreadable
  exact unreadable isText

example : ofArgument (utf8 "--dir=a=b") = .assigned .directory (utf8 "a=b") := rfl

end ArgumentKind

end ExampleBuild
