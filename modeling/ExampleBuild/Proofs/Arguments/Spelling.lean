import ExampleBuild.Arguments.Kind
import ExampleBuild.Arguments.Token
import ExampleBuild.Proofs.Text.ReadableText
import Mathlib.Data.List.TakeWhile

namespace ExampleBuild

/-! How options are spelled: in full, by a letter, or in full with a value behind an equals
sign. No two options share a spelling, and an equals sign cuts an argument in one way only. -/

open ArgumentKind (separatorText)
open OwnOption (hyphen equalsSign)

namespace OwnOption

def longSpelling (option : OwnOption) : ByteText := utf8 ("--" ++ option.longName)

def shortSpelling? (option : OwnOption) : Option ByteText :=
  option.letter?.map fun letter => utf8 (String.ofList ['-', letter])

def spellings (option : OwnOption) : List ByteText :=
  option.longSpelling :: option.shortSpelling?.toList

theorem longSpelling_eq (option : OwnOption) :
    option.longSpelling = hyphen :: hyphen :: utf8 option.longName := by
  rw [longSpelling, utf8_append]
  rfl

theorem mem_all (option : OwnOption) : option ∈ all := by
  rcases option with flag | setting
  · cases flag <;> decide
  · cases setting <;> decide

private theorem spellings_differ : ∀ left ∈ all, ∀ right ∈ all,
    ∀ argument ∈ left.spellings, argument ∈ right.spellings → left = right := by
  decide +kernel

theorem eq_of_mem_spellings {left right : OwnOption} {argument : ByteText}
    (isLeft : argument ∈ left.spellings) (isRight : argument ∈ right.spellings) :
    left = right :=
  spellings_differ left left.mem_all right right.mem_all argument isLeft isRight

theorem longSpelling_injective {left right : OwnOption}
    (same : left.longSpelling = right.longSpelling) : left = right :=
  eq_of_mem_spellings List.mem_cons_self (same ▸ List.mem_cons_self)

theorem no_equalsSign : ∀ option ∈ all, ∀ argument ∈ option.spellings,
    equalsSign ∉ argument := by
  decide +kernel

end OwnOption

/-! ## The first equals sign -/

namespace Token

private theorem ne_of_plain {argument : ByteText} (plain : equalsSign ∉ argument) :
    ∀ byte ∈ argument, decide (byte ≠ equalsSign) = true := by
  intro byte member
  rw [decide_eq_true_eq]
  intro same
  subst same
  exact plain member

theorem nameAndValue_of_not_mem {argument : ByteText} (plain : equalsSign ∉ argument) :
    nameAndValue argument = (argument, none) := by
  have dropped := List.dropWhile_eq_nil_iff.mpr (ne_of_plain plain)
  rw [nameAndValue, dropped]

theorem nameAndValue_append {name : ByteText} (plain : equalsSign ∉ name) (value : ByteText) :
    nameAndValue (name ++ equalsSign :: value) = (name, some value) := by
  have dropped : (name ++ equalsSign :: value).dropWhile (· ≠ equalsSign) =
      equalsSign :: value := by
    rw [List.dropWhile_append_of_pos (ne_of_plain plain)]
    simp
  have taken : (name ++ equalsSign :: value).takeWhile (· ≠ equalsSign) = name := by
    rw [List.takeWhile_append_of_pos (ne_of_plain plain)]
    simp
  rw [nameAndValue, dropped, taken]

theorem plain_or_assigned (argument : ByteText) :
    equalsSign ∉ argument ∨
      ∃ name value, equalsSign ∉ name ∧ argument = name ++ equalsSign :: value := by
  by_cases member : equalsSign ∈ argument
  · rcases List.eq_append_cons_of_mem member with ⟨name, value, split, plain⟩
    exact .inr ⟨name, value, plain, split⟩
  · exact .inl member

theorem nameAndValue_fst_iff {argument name : ByteText} :
    (nameAndValue argument).1 = name ↔ equalsSign ∉ name ∧
      (argument = name ∨ ∃ value, argument = name ++ equalsSign :: value) := by
  constructor
  · intro same
    subst same
    rcases plain_or_assigned argument with plain | ⟨name, value, plain, rfl⟩
    · rw [nameAndValue_of_not_mem plain]
      exact ⟨plain, .inl rfl⟩
    · rw [nameAndValue_append plain]
      exact ⟨plain, .inr ⟨value, rfl⟩⟩
  · intro cut
    rcases cut with ⟨plain, rfl | ⟨value, rfl⟩⟩
    · rw [nameAndValue_of_not_mem plain]
    · rw [nameAndValue_append plain]

theorem assigned_injective {left right value other : ByteText} (leftPlain : equalsSign ∉ left)
    (rightPlain : equalsSign ∉ right)
    (same : left ++ equalsSign :: value = right ++ equalsSign :: other) :
    left = right ∧ value = other := by
  have cut := congrArg nameAndValue same
  rw [nameAndValue_append leftPlain, nameAndValue_append rightPlain] at cut
  simpa using cut

theorem nameAndValue_fst_cons {byte : UInt8} (plain : byte ≠ equalsSign) (text : ByteText) :
    (nameAndValue (byte :: text)).1 = byte :: (nameAndValue text).1 := by
  rcases nameAndValue_fst_iff.mp (rfl : (nameAndValue text).1 = _) with ⟨free, split⟩
  refine nameAndValue_fst_iff.mpr ⟨?_, ?_⟩
  · rw [List.mem_cons, not_or]
    exact ⟨plain.symm, free⟩
  · rcases split with same | ⟨value, same⟩
    · exact .inl (congrArg (byte :: ·) same)
    · exact .inr ⟨value, congrArg (byte :: ·) same⟩

end Token

/-! ## A setting with its value -/

namespace Setting

def longSpelling (setting : Setting) : ByteText := (OwnOption.setting setting).longSpelling

def assignment (setting : Setting) (value : ByteText) : ByteText :=
  setting.longSpelling ++ equalsSign :: value

theorem longSpelling_plain (setting : Setting) : equalsSign ∉ setting.longSpelling :=
  OwnOption.no_equalsSign _ (OwnOption.mem_all _) _ List.mem_cons_self

variable {setting : Setting} {value : ByteText}

theorem isText_assignment_iff : (setting.assignment value).IsText ↔ value.IsText := by
  rw [assignment, ByteText.isText_cut_iff]
  exact and_iff_right ⟨_, rfl⟩

theorem assignment_injective {other : Setting} {otherValue : ByteText}
    (same : setting.assignment value = other.assignment otherValue) :
    setting = other ∧ value = otherValue := by
  rcases Token.assigned_injective setting.longSpelling_plain other.longSpelling_plain same with
    ⟨sameName, sameValue⟩
  exact ⟨OwnOption.setting.inj (OwnOption.longSpelling_injective sameName), sameValue⟩

theorem equalsSign_mem_assignment : equalsSign ∈ setting.assignment value :=
  List.mem_append_right _ List.mem_cons_self

theorem assignment_ne_separator : setting.assignment value ≠ separatorText := by
  intro same
  have plain : equalsSign ∉ separatorText := by decide
  exact plain (same ▸ equalsSign_mem_assignment)

theorem assignment_not_mem_spellings (option : OwnOption) :
    setting.assignment value ∉ option.spellings := fun spelled =>
  OwnOption.no_equalsSign option option.mem_all _ spelled equalsSign_mem_assignment

end Setting

end ExampleBuild
