import ExampleBuild.Proofs.Arguments.Acceptance
import ExampleBuild.Proofs.Arguments.Conservation

namespace ExampleBuild

/-! An option may be spelled in full or by its letter. Where options are looked for, neither
the options that are read nor the errors depend on which spelling is used. -/

open ArgumentKind (separatorText)

/-- Options are looked for at the places that hold no value, up to the separator. -/
structure IsOptionPlace (arguments : List ByteText) (place : Nat) : Prop where
  free : ¬ StandsAsValue arguments place
  unseparated : ∀ earlier < place, arguments[earlier]? = some separatorText →
    StandsAsValue arguments earlier

/-- Two lists of arguments that differ in nothing but the spellings of options. -/
structure Respells (left right : List ByteText) : Prop where
  length : left.length = right.length
  each : ∀ place argument other,
    left[place]? = some argument → right[place]? = some other →
      argument = other ∨ IsOptionPlace left place ∧
        ∃ option : OwnOption, argument ∈ option.spellings ∧ other ∈ option.spellings

namespace IsOptionPlace

variable {arguments : List ByteText} {place : Nat} {argument : ByteText}

theorem first : IsOptionPlace arguments 0 := ⟨id, nofun⟩

theorem next (here : IsOptionPlace arguments place) (found : arguments[place]? = some argument)
    (notSetting : ∀ setting, ArgumentKind.ofArgument argument ≠ .setting setting)
    (notSeparator : ArgumentKind.ofArgument argument ≠ .separator) :
    IsOptionPlace arguments (place + 1) where
  free := not_standsAsValue_after found notSetting
  unseparated earlier before separator := by
    rcases Nat.lt_succ_iff_lt_or_eq.mp before with earlier | rfl
    · exact here.unseparated _ earlier separator
    · cases found.symm.trans separator
      exact absurd ArgumentKind.ofArgument_separator notSeparator

theorem afterValue (here : IsOptionPlace arguments place)
    (found : arguments[place]? = some argument) {setting : Setting}
    (kind : ArgumentKind.ofArgument argument = .setting setting) :
    IsOptionPlace arguments (place + 2) where
  free := not_standsAsValue_after_value (standsAsValue_after_setting here.free found kind)
  unseparated earlier before separator := by
    rcases Nat.lt_succ_iff_lt_or_eq.mp before with before | rfl
    · rcases Nat.lt_succ_iff_lt_or_eq.mp before with earlier | rfl
      · exact here.unseparated _ earlier separator
      · cases found.symm.trans separator
        cases ArgumentKind.ofArgument_separator.symm.trans kind
    · exact standsAsValue_after_setting here.free found kind

end IsOptionPlace

namespace Respells

variable {left right rest : List ByteText} {place : Nat} {argument : ByteText}

theorem drop_eq_nil_iff (respells : Respells left right) :
    right.drop place = [] ↔ left.drop place = [] := by
  rw [List.drop_eq_nil_iff, List.drop_eq_nil_iff, respells.length]

theorem step (respells : Respells left right) (starts : left.drop place = argument :: rest) :
    ∃ other, right.drop place = other :: right.drop (place + 1) ∧
      ArgumentKind.ofArgument other = ArgumentKind.ofArgument argument ∧
      (ArgumentKind.ofArgument argument = .forwarded ∨ StandsAsValue left place →
        other = argument) := by
  have found := (drop_eq_cons starts).1
  have inside : place < right.length := by
    rw [← respells.length]
    exact (List.getElem?_eq_some_iff.mp found).1
  refine ⟨right[place], List.drop_eq_getElem_cons inside, ?_⟩
  rcases respells.each place _ _ found (List.getElem?_eq_getElem inside) with
    same | ⟨isOpen, option, own, other⟩
  · rw [same]
    exact ⟨rfl, fun _ => rfl⟩
  · rw [ArgumentKind.ofArgument_of_spelled own, ArgumentKind.ofArgument_of_spelled other]
    refine ⟨rfl, fun unchanged => ?_⟩
    rcases unchanged with forwarded | isValue
    · cases option <;> cases forwarded
    · exact absurd isValue isOpen.free

theorem drop_eq (respells : Respells left right)
    (closed : ∀ later, place ≤ later → ¬ IsOptionPlace left later) :
    right.drop place = left.drop place := by
  apply List.ext_getElem?
  intro offset
  rw [List.getElem?_drop, List.getElem?_drop]
  by_cases inside : place + offset < left.length
  · have insideRight : place + offset < right.length := respells.length ▸ inside
    rw [List.getElem?_eq_getElem inside, List.getElem?_eq_getElem insideRight]
    rcases respells.each _ _ _ (List.getElem?_eq_getElem inside)
      (List.getElem?_eq_getElem insideRight) with same | ⟨isOpen, -⟩
    · rw [same]
    · exact absurd isOpen (closed _ (Nat.le_add_right _ _))
  · have beyond := Nat.le_of_not_lt inside
    rw [List.getElem?_eq_none beyond, List.getElem?_eq_none (respells.length ▸ beyond)]

theorem reading_eq (respells : Respells left right) {part : List ByteText}
    (starts : left.drop place = part) (isOpen : IsOptionPlace left place) :
    Reading.ofArguments (right.drop place) = Reading.ofArguments part := by
  fun_induction Reading.ofArguments part generalizing place with
  | case1 =>
      rw [respells.drop_eq_nil_iff.mpr starts, Reading.ofArguments]
  | case2 argument rest kind =>
      rcases drop_eq_cons starts with ⟨found, onward⟩
      rcases respells.step starts with ⟨other, startsRight, same, -⟩
      -- Behind the separator no option is looked for, so both lists are the same there.
      have closed (later : Nat) (after : place + 1 ≤ later) : ¬ IsOptionPlace left later := by
        intro laterOpen
        have separator := ArgumentKind.ofArgument_eq_separator_iff.mp kind
        exact isOpen.free (laterOpen.unseparated place after (separator ▸ found))
      rw [startsRight, respells.drop_eq closed, onward, Reading.ofArguments.eq_def]
      simp only [same, kind]
  | case3 argument rest flag kind induction =>
      rcases drop_eq_cons starts with ⟨found, onward⟩
      rcases respells.step starts with ⟨other, startsRight, same, -⟩
      have later := induction onward (isOpen.next found (by simp [kind]) (by simp [kind]))
      rw [startsRight, Reading.ofArguments.eq_def]
      simp only [same, kind, later]
  | case4 argument rest setting value kind induction =>
      rcases drop_eq_cons starts with ⟨found, onward⟩
      rcases respells.step starts with ⟨other, startsRight, same, -⟩
      have later := induction onward (isOpen.next found (by simp [kind]) (by simp [kind]))
      rw [startsRight, Reading.ofArguments.eq_def]
      simp only [same, kind, later]
  | case5 argument setting kind =>
      rcases drop_eq_cons starts with ⟨-, onward⟩
      rcases respells.step starts with ⟨other, startsRight, same, -⟩
      rw [startsRight, respells.drop_eq_nil_iff.mpr onward, Reading.ofArguments.eq_def]
      simp only [same, kind]
  | case6 argument setting kind value others induction =>
      rcases drop_eq_cons starts with ⟨found, valueStarts⟩
      rcases drop_eq_cons valueStarts with ⟨-, onward⟩
      rcases respells.step starts with ⟨other, startsRight, same, -⟩
      rcases respells.step valueStarts with ⟨otherValue, valueStartsRight, -, sameValue⟩
      cases sameValue (.inr (standsAsValue_after_setting isOpen.free found kind))
      have later := induction onward (isOpen.afterValue found kind)
      rw [startsRight, valueStartsRight, Reading.ofArguments.eq_def]
      simp only [same, kind, later]
  | case7 argument rest kind induction =>
      rcases drop_eq_cons starts with ⟨found, onward⟩
      rcases respells.step starts with ⟨other, startsRight, same, sameForwarded⟩
      cases sameForwarded (.inl kind)
      have later := induction onward (isOpen.next found (by simp [kind]) (by simp [kind]))
      rw [startsRight, Reading.ofArguments.eq_def]
      simp only [kind, later]

end Respells

namespace Options

/-- Options may be spelled in full or by their letters wherever they are looked for. The same
options are read from the arguments, or the same error is met. -/
theorem ofArguments_synonyms {left right : List ByteText} (respells : Respells left right)
    (fromEnvironment : Option ByteText) :
    ofArguments left fromEnvironment = ofArguments right fromEnvironment := by
  have same : Reading.ofArguments right = Reading.ofArguments left :=
    respells.reading_eq List.drop_zero .first
  rw [ofArguments_eq, ofArguments_eq, same]

/-! Letters that are the value of a setting or stand behind the separator are kept. -/

def lettered : List ByteText := ["-v", "--cx", "-Cx", "-C", "ex", "--", "-h"].map utf8

def writtenOut : List ByteText :=
  ["--verbose", "--cx", "-Cx", "--dir", "ex", "--", "-h"].map utf8

theorem lettered_respells : Respells lettered writtenOut where
  length := rfl
  each place argument other found foundOther := by
    have atFirst : IsOptionPlace lettered 0 := .first
    have verbose : ArgumentKind.ofArgument (utf8 "-v") = .flag .verbose := rfl
    have compiler : ArgumentKind.ofArgument (utf8 "--cx") = .setting .compiler := rfl
    have atDirectory : IsOptionPlace lettered 3 :=
      (atFirst.next rfl (by simp [verbose]) (by simp [verbose])).afterValue rfl compiler
    match place with
    | 0 =>
        cases found
        cases foundOther
        exact .inr ⟨atFirst, .flag .verbose, by decide, by decide⟩
    | 3 =>
        cases found
        cases foundOther
        exact .inr ⟨atDirectory, .setting .directory, by decide, by decide⟩
    | 1 | 2 | 4 | 5 | 6 => exact .inl (Option.some.inj (found.symm.trans foundOther))
    | _ + 7 => cases found

theorem lettered_writtenOut :
    Respells lettered writtenOut ∧
      ofArguments lettered none = ofArguments writtenOut none ∧
      ofArguments writtenOut none =
        .ok ⟨"-Cx", some (utf8 "ex"), false, .text, true, ["-h"]⟩ :=
  ⟨lettered_respells, ofArguments_synonyms lettered_respells none, by decide +kernel⟩

end Options

end ExampleBuild
