import ExampleBuild.Proofs.Arguments.Acceptance

namespace ExampleBuild

/-! A value may be given in the argument after its setting, or in the same argument after
an equals sign. The two spellings give the same options, or the same error, exactly for
the values that are text: any other value can only be given in an argument of its own. -/

open ArgumentKind (separatorText)

/-! ## Arguments before others -/

/-- Whether reading comes to the end of the arguments: no separator stands in the way, and
no setting is left waiting for its value. -/
def isComplete : List ByteText → Bool
  | [] => true
  | argument :: rest =>
      match ArgumentKind.ofArgument argument with
      | .separator => false
      | .flag _ | .assigned _ _ | .forwarded => isComplete rest
      | .setting _ =>
          match rest with
          | [] => false
          | _ :: others => isComplete others

theorem Reading.ofArguments_append {before : List ByteText}
    (complete : isComplete before = true) (after : List ByteText) :
    ofArguments (before ++ after) =
      ⟨(ofArguments before).items ++ (ofArguments after).items, (ofArguments after).rest⟩ := by
  fun_induction isComplete before with
  | case1 => rfl
  | case2 argument rest kind => cases complete
  | case3 argument rest flag kind induction =>
      simp [ofArguments, kind, induction complete, withItem]
  | case4 argument rest setting value kind induction =>
      simp [ofArguments, kind, induction complete, withItem]
  | case5 argument rest kind induction =>
      simp [ofArguments, kind, induction complete, withItem]
  | case6 argument setting kind => cases complete
  | case7 argument setting kind value others induction =>
      simp [ofArguments, kind, induction complete, withItem]

namespace Choices

theorem takeAll_append (choices : Choices) (earlier later : List ArgumentItem) :
    choices.takeAll (earlier ++ later) =
      match choices.takeAll earlier with
      | .error error => .error error
      | .ok next => next.takeAll later := by
  induction earlier generalizing choices with
  | nil => rfl
  | cons item rest induction =>
      rw [List.cons_append, takeAll, takeAll]
      cases choices.take item with
      | error error => rfl
      | ok next => exact induction next

theorem take_valued_of_canBeValue {value : ByteText} (canBeValue : CanBeValue value)
    (choices : Choices) (setting : Setting) :
    choices.take (.valued setting (some value)) = choices.take (.assigned setting value) := by
  simp only [take, valueOf, Occurrence.ofArgument_eq_operand_iff.mpr canBeValue]

theorem takeAll_replace {item other : ArgumentItem}
    (alike : ∀ choices : Choices, choices.take item = choices.take other) (choices : Choices)
    (earlier later : List ArgumentItem) :
    choices.takeAll (earlier ++ item :: later) = choices.takeAll (earlier ++ other :: later) := by
  rw [takeAll_append, takeAll_append]
  cases choices.takeAll earlier with
  | error error => rfl
  | ok next => simp only [takeAll, alike]

end Choices

/-! ## The two spellings -/

namespace Reading

variable (setting : Setting) {value : ByteText} (after : List ByteText)

theorem ofArguments_valued :
    ofArguments (setting.longSpelling :: value :: after) =
      (ofArguments after).withItem (.valued setting (some value)) := by
  simp [ofArguments, ArgumentKind.ofArgument_longSpelling]

theorem ofArguments_assignment (isText : value.IsText) :
    ofArguments (setting.assignment value :: after) =
      (ofArguments after).withItem (.assigned setting value) := by
  simp [ofArguments, ArgumentKind.ofArgument_assignment isText]

theorem ofArguments_unreadable (unreadable : ¬ value.IsText) :
    ofArguments (setting.assignment value :: after) =
      (ofArguments after).withItem (.forwarded (setting.assignment value)) := by
  simp [ofArguments, ArgumentKind.ofArgument_assignment_of_not_isText unreadable]

end Reading

namespace Options

variable {setting : Setting} {value : ByteText}

theorem ofArguments_respelled (canBeValue : CanBeValue value) (isText : value.IsText)
    {before : List ByteText} (complete : isComplete before = true) (after : List ByteText)
    (fromEnvironment : Option ByteText) :
    ofArguments (before ++ setting.longSpelling :: value :: after) fromEnvironment =
      ofArguments (before ++ setting.assignment value :: after) fromEnvironment := by
  have alike (choices : Choices) := Choices.take_valued_of_canBeValue canBeValue choices setting
  simp only [ofArguments_eq, Reading.ofArguments_append complete, Reading.ofArguments_valued,
    Reading.ofArguments_assignment setting after isText, Reading.withItem,
    Choices.takeAll_replace alike, Reading.forwarded, List.filterMap_append,
    List.filterMap_cons, ArgumentItem.forwarded?]

/-! ## Values that are no text -/

theorem complete_unreadable {choices : Choices} {forwarded : List ByteText}
    {fromEnvironment : Option ByteText} {argument : ByteText} (member : argument ∈ forwarded)
    (unreadable : ¬ argument.IsText) :
    complete choices forwarded fromEnvironment = .error .illFormedText := by
  have undecoded : decodeAll? forwarded = none := by
    rw [Option.eq_none_iff_forall_ne_some]
    intro texts decoded
    exact unreadable (exists_decodeAll?_iff.mp ⟨texts, decoded⟩ argument member)
  cases chosen : chosenCompiler choices.compiler fromEnvironment with
  | ok compiler => simp [complete, chosen, undecoded]
  | error error =>
      have same : error = .illFormedText := by
        unfold chosenCompiler at chosen
        split at chosen
        · cases chosen
        · cases chosen
        · split at chosen <;> cases chosen
          rfl
      simp [complete, chosen, same]

theorem ofArguments_unreadable (unreadable : ¬ value.IsText) (after : List ByteText)
    (fromEnvironment : Option ByteText) :
    ofArguments (setting.assignment value :: after) fromEnvironment =
      match Choices.unset.takeAll (Reading.ofArguments after).items with
      | .error error => .error error
      | .ok _ => .error .illFormedText := by
  have unreadableArgument : ¬ (setting.assignment value).IsText := fun isText =>
    unreadable (Setting.isText_assignment_iff.mp isText)
  rw [ofArguments_eq, Reading.ofArguments_unreadable setting after unreadable]
  simp only [Reading.withItem, Choices.takeAll, Choices.take]
  cases Choices.unset.takeAll (Reading.ofArguments after).items with
  | error error => rfl
  | ok choices => exact complete_unreadable List.mem_cons_self unreadableArgument

theorem valueOf_error {argument : ByteText} {error : ArgumentError}
    (failed : Choices.valueOf setting argument = .error error) :
    error ≠ .helpWanted ∧ error ≠ .illFormedText := by
  rw [Choices.valueOf] at failed
  cases occurrence : Occurrence.ofArgument argument <;> rw [occurrence] at failed <;>
    cases failed <;> simp

theorem assign_error {choices : Choices} {error : ArgumentError}
    (failed : choices.assign setting value = .error error) :
    error ≠ .helpWanted ∧ (setting = .directory → error ≠ .illFormedText) := by
  cases setting with
  | compiler =>
      refine ⟨?_, by simp⟩
      simp only [Choices.assign] at failed
      split at failed
      · cases failed
        simp
      · split at failed <;> cases failed
        simp
  | directory =>
      simp only [Choices.assign] at failed
      split at failed
      · cases failed
        simp
      · split at failed <;> cases failed
        simp
  | output =>
      refine ⟨?_, by simp⟩
      simp only [Choices.assign] at failed
      split at failed
      · cases failed
        simp
      split at failed
      · cases failed
        simp
      · split at failed <;> cases failed
        simp

theorem take_valued_error {choices : Choices} {value? : Option ByteText} {error : ArgumentError}
    (failed : choices.take (.valued setting value?) = .error error) :
    error ≠ .helpWanted ∧ (setting = .directory → error ≠ .illFormedText) := by
  cases value? with
  | none =>
      cases failed
      simp
  | some argument =>
      rw [Choices.take] at failed
      cases given : Choices.valueOf setting argument with
      | error own =>
          rw [given] at failed
          cases failed
          exact ⟨(valueOf_error given).1, fun _ => (valueOf_error given).2⟩
      | ok value =>
          rw [given] at failed
          exact assign_error failed

theorem isText_of_admits {value : ByteText} (admits : setting.Admits value)
    (notDirectory : setting ≠ .directory) : value.IsText := by
  cases setting with
  | compiler => exact admits
  | directory => exact absurd rfl notDirectory
  | output =>
      rcases admits with rfl | rfl
      · exact ⟨"text", rfl⟩
      · exact ⟨"json", rfl⟩

theorem ofArguments_directory_ne_illFormedText (value : ByteText) :
    ofArguments [Setting.directory.longSpelling, value] none ≠ .error .illFormedText := by
  intro refused
  rw [ofArguments_eq, Reading.ofArguments_valued] at refused
  cases taken : Choices.unset.take (.valued .directory (some value)) with
  | error error =>
      simp only [Reading.withItem, Choices.takeAll, taken, Except.error.injEq] at refused
      exact (take_valued_error taken).2 rfl refused
  | ok next =>
      have completed : complete next [] none = .error .illFormedText := by
        simp only [Reading.withItem, Reading.ofArguments, Choices.takeAll, taken] at refused
        exact refused
      cases chosen : next.compiler <;>
        simp [complete, chosenCompiler, chosen, decodeAll?] at completed

theorem ofArguments_valued_ne_helpWanted (notDirectory : setting ≠ .directory)
    (unreadable : ¬ value.IsText) (after : List ByteText) (fromEnvironment : Option ByteText) :
    ofArguments (setting.longSpelling :: value :: after) fromEnvironment ≠
      .error .helpWanted := by
  intro refused
  rw [ofArguments_eq, Reading.ofArguments_valued] at refused
  cases taken : Choices.unset.take (.valued setting (some value)) with
  | error error =>
      simp only [Reading.withItem, Choices.takeAll, taken, Except.error.injEq] at refused
      exact (take_valued_error taken).1 refused
  | ok next =>
      have sound := (Choices.take_ok_iff.mp ⟨next, taken⟩).1
      exact unreadable (isText_of_admits sound.2 notDirectory)

/-- Two spellings of a value agree wherever they stand exactly if the value is text. -/
theorem ofArguments_respelled_iff (setting : Setting) {value : ByteText}
    (notSeparator : value ≠ separatorText) (notOwn : ¬ LooksOwn value) :
    (∀ before after fromEnvironment, isComplete before = true →
      ofArguments (before ++ setting.longSpelling :: value :: after) fromEnvironment =
        ofArguments (before ++ setting.assignment value :: after) fromEnvironment) ↔
      value.IsText := by
  constructor
  · intro agree
    by_contra unreadable
    -- With a request for help behind it, an argument that cannot be forwarded is never met.
    by_cases directory : setting = .directory
    · subst directory
      apply ofArguments_directory_ne_illFormedText value
      exact (agree [] [] none rfl).trans (ofArguments_unreadable unreadable [] none)
    · apply ofArguments_valued_ne_helpWanted directory unreadable [utf8 "-h"] none
      exact (agree [] [utf8 "-h"] none rfl).trans (ofArguments_unreadable unreadable _ none)
  · intro isText before after fromEnvironment complete
    have canBeValue : CanBeValue value :=
      ⟨notSeparator, notOwn, hasReadableName_of_isText isText⟩
    exact ofArguments_respelled canBeValue isText complete after fromEnvironment

theorem ofArguments_respelled_compiler :
    utf8 "-O=--x" ≠ separatorText ∧ ¬ LooksOwn (utf8 "-O=--x") ∧
      ofArguments (["-g", "-C", "--", "--cx", "-O=--x", "-v"].map utf8) none =
        ofArguments (["-g", "-C", "--", "--cx=-O=--x", "-v"].map utf8) none := by
  have canBeValue : CanBeValue (utf8 "-O=--x") :=
    Occurrence.ofArgument_eq_operand_iff.mp (by decide +kernel)
  have agree := (ofArguments_respelled_iff .compiler canBeValue.1 canBeValue.2.1).mpr ⟨_, rfl⟩
  exact ⟨canBeValue.1, canBeValue.2.1,
    agree (["-g", "-C", "--"].map utf8) [utf8 "-v"] none (by decide +kernel)⟩

/-- A directory whose name is no text can be given in an argument of its own only. -/
theorem ofArguments_unreadableDirectory :
    let value : ByteText := [255]
    value ≠ separatorText ∧ ¬ LooksOwn value ∧ isComplete [] = true ∧
      ofArguments [Setting.directory.longSpelling, value] none =
        .ok ⟨"cx", some [255], false, .text, false, []⟩ ∧
      ofArguments [Setting.directory.assignment value] none = .error .illFormedText := by
  intro value
  have canBeValue : CanBeValue [255] := Occurrence.ofArgument_eq_operand_iff.mp (by decide +kernel)
  have refused : ofArguments [Setting.directory.assignment [255]] none =
      .error .illFormedText := by decide +kernel
  exact ⟨canBeValue.1, canBeValue.2.1, rfl, rfl, refused⟩

end Options

end ExampleBuild
