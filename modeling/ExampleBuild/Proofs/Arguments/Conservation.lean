import ExampleBuild.Arguments.Arranged
import ExampleBuild.Proofs.Arguments.Kinds

namespace ExampleBuild

/-! Arranging a list of arguments loses none of them, doubles none and keeps their order,
but for one separator. Where an argument goes is told by what it is and by its place in the
list, and not by how the list is read. -/

open ArgumentKind (separatorText)

/-! ## Places -/

/-- An argument stands as a value if a setting that is no value itself is right before it. -/
def StandsAsValue (arguments : List ByteText) : Nat → Prop
  | 0 => False
  | place + 1 => ¬ StandsAsValue arguments place ∧ ∃ before setting,
      arguments[place]? = some before ∧ ArgumentKind.ofArgument before = .setting setting

abbrev PlacedArgument : Type := ByteText × Nat

namespace PlacedArgument

/-- Options go to the front, and whatever stands as a value goes with them. -/
def IsOwn (arguments : List ByteText) (placed : PlacedArgument) : Prop :=
  StandsAsValue arguments placed.2 ∨
    (∃ flag, ArgumentKind.ofArgument placed.1 = .flag flag) ∨
    (∃ setting value, ArgumentKind.ofArgument placed.1 = .assigned setting value) ∨
    ∃ setting, ArgumentKind.ofArgument placed.1 = .setting setting

def IsForwarded (arguments : List ByteText) (placed : PlacedArgument) : Prop :=
  ¬ StandsAsValue arguments placed.2 ∧ ArgumentKind.ofArgument placed.1 = .forwarded

end PlacedArgument

section

variable {arguments : List ByteText} {place : Nat} {argument : ByteText}

theorem standsAsValue_after_setting (free : ¬ StandsAsValue arguments place)
    (found : arguments[place]? = some argument) {setting : Setting}
    (kind : ArgumentKind.ofArgument argument = .setting setting) :
    StandsAsValue arguments (place + 1) :=
  ⟨free, argument, setting, found, kind⟩

theorem not_standsAsValue_after (found : arguments[place]? = some argument)
    (kind : ∀ setting, ArgumentKind.ofArgument argument ≠ .setting setting) :
    ¬ StandsAsValue arguments (place + 1) := by
  intro value
  rcases value with ⟨_, before, setting, isBefore, isSetting⟩
  cases found.symm.trans isBefore
  exact kind setting isSetting

theorem not_standsAsValue_after_value (value : StandsAsValue arguments place) :
    ¬ StandsAsValue arguments (place + 1) :=
  fun next => next.1 value

theorem PlacedArgument.IsOwn.separator_is_value
    (own : PlacedArgument.IsOwn arguments (separatorText, place)) :
    StandsAsValue arguments place := by
  have kind : ArgumentKind.ofArgument separatorText = .separator :=
    ArgumentKind.ofArgument_separator
  rcases own with value | ⟨flag, isFlag⟩ | ⟨setting, value, isAssigned⟩ | ⟨setting, isSetting⟩
  · exact value
  · cases kind.symm.trans isFlag
  · cases kind.symm.trans isAssigned
  · cases kind.symm.trans isSetting

theorem PlacedArgument.IsForwarded.ne_separator {placed : PlacedArgument}
    (forwarded : PlacedArgument.IsForwarded arguments placed) : placed.1 ≠ separatorText := by
  intro same
  have kind := forwarded.2
  rw [same, ArgumentKind.ofArgument_separator] at kind
  cases kind

end

/-! ## Merging -/

/-- Two lists are merged into one, which keeps the order of each. -/
inductive Merges {α : Type} : List α → List α → List α → Prop
  | none : Merges [] [] []
  | left (item : α) {lefts rights merged : List α} (onward : Merges lefts rights merged) :
      Merges (item :: lefts) rights (item :: merged)
  | right (item : α) {lefts rights merged : List α} (onward : Merges lefts rights merged) :
      Merges lefts (item :: rights) (item :: merged)

theorem Merges.mem_or_mem {α : Type} {lefts rights merged : List α} {item : α}
    (merges : Merges lefts rights merged) (member : item ∈ merged) :
    item ∈ lefts ∨ item ∈ rights := by
  induction merges with
  | none => cases member
  | left first onward induction =>
      rcases List.mem_cons.mp member with rfl | later
      · exact .inl List.mem_cons_self
      · exact (induction later).imp (List.mem_cons_of_mem _) id
  | right first onward induction =>
      rcases List.mem_cons.mp member with rfl | later
      · exact .inr List.mem_cons_self
      · exact (induction later).imp id (List.mem_cons_of_mem _)

/-! ## Arguments taken apart -/

/-- What is left at the place where no more options are looked for: nothing, or a separator
that is no value, and what comes after it. -/
inductive EndsAt (arguments : List ByteText) (place : Nat) :
    List ByteText → List ByteText → Prop
  | nothing : EndsAt arguments place [] []
  | separator (free : ¬ StandsAsValue arguments place) (after : List ByteText) :
      EndsAt arguments place (separatorText :: after) after

structure TakenApart (arguments : List ByteText) (place : Nat) (part before : List ByteText)
    (own forwarded : List PlacedArgument) (after : List ByteText) : Prop where
  ended : ∃ ending, part = before ++ ending ∧
    EndsAt arguments (place + before.length) ending after
  merged : Merges own forwarded (before.zipIdx place)
  areOwn : ∀ placed ∈ own, placed.IsOwn arguments
  areForwarded : ∀ placed ∈ forwarded, placed.IsForwarded arguments

namespace TakenApart

variable {arguments part before after : List ByteText} {place : Nat} {argument : ByteText}
  {own forwarded : List PlacedArgument}

theorem ofEnding (ends : EndsAt arguments place part after) :
    TakenApart arguments place part [] [] [] after where
  ended := ⟨part, rfl, ends⟩
  merged := .none
  areOwn := List.forall_mem_nil _
  areForwarded := List.forall_mem_nil _

private theorem ended_cons
    (apart : TakenApart arguments (place + 1) part before own forwarded after) :
    ∃ ending, argument :: part = argument :: before ++ ending ∧
      EndsAt arguments (place + (argument :: before).length) ending after := by
  rcases apart.ended with ⟨ending, rfl, ends⟩
  refine ⟨ending, rfl, ?_⟩
  rwa [List.length_cons, Nat.add_comm before.length, ← Nat.add_assoc]

theorem withOwn (isOwn : PlacedArgument.IsOwn arguments (argument, place))
    (apart : TakenApart arguments (place + 1) part before own forwarded after) :
    TakenApart arguments place (argument :: part) (argument :: before)
      ((argument, place) :: own) forwarded after where
  ended := apart.ended_cons
  merged := apart.merged.left (argument, place)
  areOwn := List.forall_mem_cons.mpr ⟨isOwn, apart.areOwn⟩
  areForwarded := apart.areForwarded

theorem withForwarded (isForwarded : PlacedArgument.IsForwarded arguments (argument, place))
    (apart : TakenApart arguments (place + 1) part before own forwarded after) :
    TakenApart arguments place (argument :: part) (argument :: before)
      own ((argument, place) :: forwarded) after where
  ended := apart.ended_cons
  merged := apart.merged.right (argument, place)
  areOwn := apart.areOwn
  areForwarded := List.forall_mem_cons.mpr ⟨isForwarded, apart.areForwarded⟩

end TakenApart

/-! ## Division

The arguments are read from a place that holds no value. The setting there is the only one
that makes a value of what follows it, so the place after what was read holds none either. -/

theorem drop_eq_cons {arguments rest : List ByteText} {argument : ByteText} {place : Nat}
    (starts : arguments.drop place = argument :: rest) :
    arguments[place]? = some argument ∧ arguments.drop (place + 1) = rest := by
  rw [← List.head?_drop, ← List.tail_drop, starts]
  exact ⟨rfl, rfl⟩

theorem free_after {arguments rest : List ByteText} {argument : ByteText} {place : Nat}
    (starts : arguments.drop place = argument :: rest)
    (kind : ∀ setting, ArgumentKind.ofArgument argument ≠ .setting setting) :
    arguments.drop (place + 1) = rest ∧ ¬ StandsAsValue arguments (place + 1) := by
  rcases drop_eq_cons starts with ⟨found, onward⟩
  exact ⟨onward, not_standsAsValue_after found kind⟩

theorem Division.takenApart {arguments part : List ByteText} {place : Nat}
    (starts : arguments.drop place = part) (free : ¬ StandsAsValue arguments place) :
    ∃ before own forwarded after, TakenApart arguments place part before own forwarded after ∧
      Division.ofArguments part =
        ⟨own.map Prod.fst, forwarded.map Prod.fst ++ after⟩ := by
  -- Only in front of an argument that is no value does the division start, which is why the
  -- place of a value is passed together with its setting.
  fun_induction Division.ofArguments part generalizing place with
  | case1 => exact ⟨[], [], [], [], .ofEnding .nothing, rfl⟩
  | case2 argument rest kind =>
      have separator := ArgumentKind.ofArgument_eq_separator_iff.mp kind
      subst separator
      exact ⟨[], [], [], rest, .ofEnding (.separator free rest), rfl⟩
  | case3 argument rest flag kind induction =>
      rcases free_after starts (by simp [kind]) with ⟨onward, freeAfter⟩
      rcases induction onward freeAfter with ⟨before, own, forwarded, after, apart, divided⟩
      refine ⟨_, _, _, _, apart.withOwn (.inr (.inl ⟨flag, kind⟩)), ?_⟩
      rw [divided]
      rfl
  | case4 argument rest setting value kind induction =>
      rcases free_after starts (by simp [kind]) with ⟨onward, freeAfter⟩
      rcases induction onward freeAfter with ⟨before, own, forwarded, after, apart, divided⟩
      refine ⟨_, _, _, _, apart.withOwn (.inr (.inr (.inl ⟨setting, value, kind⟩))), ?_⟩
      rw [divided]
      rfl
  | case5 argument setting kind =>
      have isOwn : PlacedArgument.IsOwn arguments (argument, place) :=
        .inr (.inr (.inr ⟨setting, kind⟩))
      exact ⟨_, _, _, _, TakenApart.withOwn isOwn (.ofEnding .nothing), rfl⟩
  | case6 argument setting kind value others induction =>
      rcases drop_eq_cons starts with ⟨found, valueStarts⟩
      rcases drop_eq_cons valueStarts with ⟨_, onward⟩
      have isValue := standsAsValue_after_setting free found kind
      rcases induction onward (not_standsAsValue_after_value isValue) with
        ⟨before, own, forwarded, after, apart, divided⟩
      have valueIsOwn : PlacedArgument.IsOwn arguments (value, place + 1) := .inl isValue
      refine ⟨_, _, _, _,
        (apart.withOwn valueIsOwn).withOwn (.inr (.inr (.inr ⟨setting, kind⟩))), ?_⟩
      rw [divided]
      rfl
  | case7 argument rest kind induction =>
      rcases free_after starts (by simp [kind]) with ⟨onward, freeAfter⟩
      rcases induction onward freeAfter with ⟨before, own, forwarded, after, apart, divided⟩
      refine ⟨_, _, _, _, apart.withForwarded ⟨free, kind⟩, ?_⟩
      rw [divided]
      rfl

theorem TakenApart.separator_is_value {arguments part before after : List ByteText}
    {own forwarded : List PlacedArgument} {start place : Nat}
    (apart : TakenApart arguments start part before own forwarded after)
    (member : (separatorText, place) ∈ before.zipIdx start) : StandsAsValue arguments place := by
  rcases apart.merged.mem_or_mem member with inOwn | inForwarded
  · exact (apart.areOwn _ inOwn).separator_is_value
  · exact absurd rfl (apart.areForwarded _ inForwarded).ne_separator

/-- A command line is arranged into its program, the options, a separator and the forwarded
arguments. Those before the first separator that is no value are merged from options and
forwarded arguments, by their places, and those after it are forwarded as they are. -/
theorem arrangedCommandLine_conserves (program : ByteText) (arguments : List ByteText) :
    ∃ before own forwarded after,
      arrangedCommandLine (program :: arguments) =
        program :: (own.map Prod.fst ++ separatorText :: (forwarded.map Prod.fst ++ after)) ∧
      (arguments = before ∧ after = [] ∨
        arguments = before ++ separatorText :: after ∧
          ¬ StandsAsValue arguments before.length) ∧
      (∀ place, (separatorText, place) ∈ before.zipIdx → StandsAsValue arguments place) ∧
      Merges own forwarded before.zipIdx ∧
      (∀ placed ∈ own, PlacedArgument.IsOwn arguments placed) ∧
      ∀ placed ∈ forwarded, PlacedArgument.IsForwarded arguments placed := by
  rcases Division.takenApart (List.drop_zero : arguments.drop 0 = arguments) id with
    ⟨before, own, forwarded, after, apart, divided⟩
  refine ⟨before, own, forwarded, after, ?_, ?_, fun place => apart.separator_is_value,
    apart.merged, apart.areOwn, apart.areForwarded⟩
  · rw [arrangedCommandLine, arranged, divided, Division.arranged]
  · rcases apart.ended with ⟨ending, split, ends⟩
    rw [Nat.zero_add] at ends
    cases ends with
    | nothing => exact .inl ⟨by rw [split, List.append_nil], rfl⟩
    | separator free => exact .inr ⟨split, free⟩

example : arrangedCommandLine (["p", "--cx", "--", "-O2", "-C"].map utf8) =
    ["p", "--cx", "--", "-C", "--", "-O2"].map utf8 := by decide +kernel

end ExampleBuild
