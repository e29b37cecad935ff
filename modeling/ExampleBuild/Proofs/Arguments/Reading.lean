import ExampleBuild.Arguments.Options
import ExampleBuild.Proofs.Arguments.Kinds
import ExampleBuild.Proofs.Arguments.Tokens

namespace ExampleBuild

/-! A list of arguments reads as items, from left to right. Moving the options to the
front changes where the items stand and not what they are. Read there as tokens, each item
comes to the option that it is spelled as, so the options are read as the items say. -/

open ArgumentKind (separatorText IsForeign)

inductive ArgumentItem
  | flag (flag : Flag)
  | assigned (setting : Setting) (value : ByteText)
  /-- A setting and the argument after it, if there is one. -/
  | valued (setting : Setting) (value? : Option ByteText)
  | forwarded (argument : ByteText)
  deriving DecidableEq

namespace ArgumentItem

def use? : ArgumentItem → Option OwnOption
  | .flag own => some (.flag own)
  | .assigned setting _ | .valued setting _ => some (.setting setting)
  | .forwarded _ => none

def value? : ArgumentItem → Option ByteText
  | .assigned _ value => some value
  | .valued _ value? => value?
  | .flag _ | .forwarded _ => none

def valueFor? (setting : Setting) (item : ArgumentItem) : Option ByteText :=
  if item.use? = some (.setting setting) then item.value? else none

def forwarded? : ArgumentItem → Option ByteText
  | .forwarded argument => some argument
  | .flag _ | .assigned _ _ | .valued _ _ => none

end ArgumentItem

structure Reading where
  items : List ArgumentItem
  rest : List ByteText

namespace Reading

def withItem (reading : Reading) (item : ArgumentItem) : Reading :=
  { reading with items := item :: reading.items }

def ofArguments : List ByteText → Reading
  | [] => ⟨[], []⟩
  | argument :: rest =>
      match ArgumentKind.ofArgument argument with
      | .separator => ⟨[], rest⟩
      | .flag flag => (ofArguments rest).withItem (.flag flag)
      | .assigned setting value => (ofArguments rest).withItem (.assigned setting value)
      | .setting setting =>
          match rest with
          | [] => ⟨[.valued setting none], []⟩
          | value :: others => (ofArguments others).withItem (.valued setting (some value))
      | .forwarded => (ofArguments rest).withItem (.forwarded argument)

def uses (reading : Reading) : List OwnOption := reading.items.filterMap ArgumentItem.use?

def forwarded (reading : Reading) : List ByteText :=
  reading.items.filterMap ArgumentItem.forwarded? ++ reading.rest

theorem forwarded_withItem (reading : Reading) (item : ArgumentItem) :
    (reading.withItem item).forwarded = item.forwarded?.toList ++ reading.forwarded := by
  cases item <;> rfl

def values (reading : Reading) (setting : Setting) : List ByteText :=
  reading.items.filterMap (ArgumentItem.valueFor? setting)

/-- How arguments read, told by how they are spelled. A setting takes the next argument along,
whatever that is. -/
inductive Reads : List ByteText → Reading → Prop
  | nothing : Reads [] ⟨[], []⟩
  | separator (rest : List ByteText) : Reads (separatorText :: rest) ⟨[], rest⟩
  | flag {own : Flag} {argument : ByteText} {rest : List ByteText} {reading : Reading}
      (spelled : argument ∈ (OwnOption.flag own).spellings) (onward : Reads rest reading) :
      Reads (argument :: rest) (reading.withItem (.flag own))
  | assigned {own : Setting} {value : ByteText} {rest : List ByteText} {reading : Reading}
      (isText : value.IsText) (onward : Reads rest reading) :
      Reads (own.assignment value :: rest) (reading.withItem (.assigned own value))
  | unfilled {own : Setting} {argument : ByteText}
      (spelled : argument ∈ (OwnOption.setting own).spellings) :
      Reads [argument] ⟨[.valued own none], []⟩
  | valued {own : Setting} {argument value : ByteText} {rest : List ByteText} {reading : Reading}
      (spelled : argument ∈ (OwnOption.setting own).spellings) (onward : Reads rest reading) :
      Reads (argument :: value :: rest) (reading.withItem (.valued own (some value)))
  | forwarded {argument : ByteText} {rest : List ByteText} {reading : Reading}
      (foreign : IsForeign argument) (onward : Reads rest reading) :
      Reads (argument :: rest) (reading.withItem (.forwarded argument))

theorem reads_ofArguments (arguments : List ByteText) :
    Reads arguments (ofArguments arguments) := by
  fun_induction ofArguments arguments with
  | case1 => exact .nothing
  | case2 argument rest kind =>
      rw [ArgumentKind.ofArgument_eq_separator_iff.mp kind]
      exact .separator rest
  | case3 argument rest flag kind induction =>
      cases ArgumentKind.ofArgument_eq_iff.mp kind with
      | flag spelled => exact .flag spelled induction
  | case4 argument rest setting value kind induction =>
      cases ArgumentKind.ofArgument_eq_iff.mp kind with
      | assigned isText same => exact same ▸ .assigned isText induction
  | case5 argument setting kind =>
      cases ArgumentKind.ofArgument_eq_iff.mp kind with
      | setting spelled => exact .unfilled spelled
  | case6 argument setting kind value others induction =>
      cases ArgumentKind.ofArgument_eq_iff.mp kind with
      | setting spelled => exact .valued spelled induction
  | case7 argument rest kind induction =>
      cases ArgumentKind.ofArgument_eq_iff.mp kind with
      | forwarded foreign => exact .forwarded foreign induction

theorem reads_iff {arguments : List ByteText} {reading : Reading} :
    Reads arguments reading ↔ reading = ofArguments arguments := by
  constructor
  · intro reads
    induction reads with
    | nothing => rfl
    | separator rest => simp [ofArguments, ArgumentKind.ofArgument_separator]
    | flag spelled _ same =>
        simp [ofArguments, ArgumentKind.ofArgument_of_isOfKind (.flag spelled), same]
    | assigned isText _ same =>
        simp [ofArguments, ArgumentKind.ofArgument_assignment isText, same]
    | unfilled spelled =>
        simp [ofArguments, ArgumentKind.ofArgument_of_isOfKind (.setting spelled)]
    | valued spelled _ same =>
        simp [ofArguments, ArgumentKind.ofArgument_of_isOfKind (.setting spelled), same]
    | forwarded foreign _ same =>
        simp [ofArguments, ArgumentKind.ofArgument_of_isOfKind (.forwarded foreign), same]
  · intro same
    exact same ▸ reads_ofArguments arguments

end Reading

/-! ## Items and options -/

namespace Choices

def take (choices : Choices) : ArgumentItem → Except ArgumentError Choices
  | .flag flag => choices.raise flag
  | .assigned setting value => choices.assign setting value
  | .valued setting none => .error (.missingValue setting)
  | .valued setting (some argument) =>
      match valueOf setting argument with
      | .error error => .error error
      | .ok value => choices.assign setting value
  | .forwarded _ => .ok choices

def takeAll (choices : Choices) : List ArgumentItem → Except ArgumentError Choices
  | [] => .ok choices
  | item :: rest =>
      match choices.take item with
      | .error error => .error error
      | .ok next => takeAll next rest

theorem takeAll_eq_ok_iff {choices final : Choices} {item : ArgumentItem}
    {rest : List ArgumentItem} :
    takeAll choices (item :: rest) = .ok final ↔
      ∃ next, choices.take item = .ok next ∧ takeAll next rest = .ok final := by
  rw [takeAll]
  cases choices.take item <;> simp

theorem valueOf_separator (setting : Setting) :
    valueOf setting separatorText = .error (.missingValue setting) := by
  rw [valueOf, Occurrence.ofArgument_separator]

/-! ## Reading in front

Each step takes the tokens of one item, which are those that its spelling says. -/

section

variable (choices : Choices) (rest : List ByteText)

theorem read_flag {own : Flag} {argument : ByteText}
    (spelled : argument ∈ (OwnOption.flag own).spellings) :
    choices.read none (argument :: rest) =
      match choices.take (.flag own) with
      | .error error => .error error
      | .ok next => next.read none rest := by
  rw [read, Occurrence.ofArgument_of_spelled spelled]
  simp only [Occurrence.ofOption, enter, raiseAll, take]
  cases choices.raise own <;> rfl

theorem read_assigned (own : Setting) (value : ByteText) :
    choices.read none (own.assignment value :: rest) =
      match choices.take (.assigned own value) with
      | .error error => .error error
      | .ok next => next.read none rest := by
  rw [read, Occurrence.ofArgument_assignment]
  simp only [enter, raiseAll, take]
  cases choices.assign own value <;> rfl

theorem read_setting {own : Setting} {argument : ByteText}
    (spelled : argument ∈ (OwnOption.setting own).spellings) :
    choices.read none (argument :: rest) = choices.read (some own) rest := by
  rw [read, Occurrence.ofArgument_of_spelled spelled]
  rfl

theorem read_value (own : Setting) (value : ByteText) :
    choices.read (some own) (value :: rest) =
      match choices.take (.valued own (some value)) with
      | .error error => .error error
      | .ok next => next.read none rest := by
  rw [read, take]
  cases valueOf own value <;> rfl

end

/-- Reading arranged arguments does to the choices what the items do. -/
theorem read_arranged (choices : Choices) (arguments left : List ByteText) :
    choices.read none ((Division.ofArguments arguments).own ++ separatorText :: left) =
      (choices.takeAll (Reading.ofArguments arguments).items).map fun final => (final, left) := by
  -- Where the options end the separator is met, also by a setting that has no value yet.
  fun_induction Division.ofArguments arguments generalizing choices with
  | case1 => simp [read, Occurrence.ofArgument_separator, Reading.ofArguments, takeAll, Except.map]
  | case2 argument rest kind =>
      simp [read, Occurrence.ofArgument_separator, Reading.ofArguments, kind, takeAll, Except.map]
  | case3 argument rest flag kind induction =>
      cases ArgumentKind.ofArgument_eq_iff.mp kind with
      | flag spelled =>
          simp only [Division.withOwn, List.cons_append, List.nil_append, read_flag _ _ spelled,
            Reading.ofArguments, kind, Reading.withItem, takeAll]
          cases choices.take (.flag flag) with
          | error error => rfl
          | ok next => exact induction next
  | case4 argument rest setting value kind induction =>
      cases ArgumentKind.ofArgument_eq_iff.mp kind with
      | assigned isText same =>
          subst same
          simp only [Division.withOwn, List.cons_append, List.nil_append, read_assigned,
            Reading.ofArguments, kind, Reading.withItem, takeAll]
          cases choices.take (.assigned setting value) with
          | error error => rfl
          | ok next => exact induction next
  | case5 argument setting kind =>
      cases ArgumentKind.ofArgument_eq_iff.mp kind with
      | setting spelled =>
          simp only [List.cons_append, List.nil_append, read_setting _ _ spelled, read,
            valueOf_separator, Reading.ofArguments, kind, takeAll, take]
          rfl
  | case6 argument setting kind value others induction =>
      cases ArgumentKind.ofArgument_eq_iff.mp kind with
      | setting spelled =>
          simp only [Division.withOwn, List.cons_append, List.nil_append,
            read_setting _ _ spelled, read_value, Reading.ofArguments, kind, Reading.withItem,
            takeAll]
          cases choices.take (.valued setting (some value)) with
          | error error => rfl
          | ok next => exact induction next
  | case7 argument rest kind induction =>
      simp only [Division.withForwarded, Reading.ofArguments, kind, Reading.withItem, takeAll,
        take]
      exact induction choices

end Choices

theorem Division.forwarded_ofArguments (arguments : List ByteText) :
    (Division.ofArguments arguments).forwarded = (Reading.ofArguments arguments).forwarded := by
  fun_induction Division.ofArguments arguments with
  | case1 => rfl
  | case2 argument rest kind => simp [Reading.ofArguments, Reading.forwarded, kind]
  | case3 argument rest flag kind induction =>
      simpa [Reading.ofArguments, kind, withOwn, Reading.forwarded_withItem,
        ArgumentItem.forwarded?] using induction
  | case4 argument rest setting value kind induction =>
      simpa [Reading.ofArguments, kind, withOwn, Reading.forwarded_withItem,
        ArgumentItem.forwarded?] using induction
  | case5 argument setting kind =>
      simp [Reading.ofArguments, Reading.forwarded, kind, ArgumentItem.forwarded?]
  | case6 argument setting kind value others induction =>
      simpa [Reading.ofArguments, kind, withOwn, Reading.forwarded_withItem,
        ArgumentItem.forwarded?] using induction
  | case7 argument rest kind induction =>
      simpa [Reading.ofArguments, kind, withForwarded, Reading.forwarded_withItem,
        ArgumentItem.forwarded?] using induction

end ExampleBuild
