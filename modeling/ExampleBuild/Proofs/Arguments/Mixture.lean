import ExampleBuild.Arguments.Options
import ExampleBuild.Proofs.Arguments.Kinds

namespace ExampleBuild

/-! Options and forwarded arguments may be mixed in any way, as long as each option keeps
its value right behind it. Arranging the arguments undoes the mixing, so nothing that is
read from them depends on it. -/

open ArgumentKind (separatorText)

/-- An option as it is given, together with its value if it takes one. -/
inductive OptionGroup
  | flag (flag : Flag) (argument : ByteText)
      (spelled : argument ∈ (OwnOption.flag flag).spellings)
  | assigned (setting : Setting) (value : ByteText) (readable : value.IsText)
  | valued (setting : Setting) (argument : ByteText)
      (spelled : argument ∈ (OwnOption.setting setting).spellings) (value : ByteText)

namespace OptionGroup

def arguments : OptionGroup → List ByteText
  | .flag _ argument _ => [argument]
  | .assigned setting value _ => [setting.assignment value]
  | .valued _ argument _ value => [argument, value]

theorem divided (group : OptionGroup) (rest : List ByteText) :
    Division.ofArguments (group.arguments ++ rest) =
      (Division.ofArguments rest).withOwn group.arguments := by
  cases group with
  | flag flag argument spelled =>
      have kind : ArgumentKind.ofArgument argument = .flag flag :=
        ArgumentKind.ofArgument_of_spelled spelled
      rw [arguments, List.singleton_append, Division.ofArguments.eq_def]
      simp only [kind]
  | assigned setting value readable =>
      have kind : ArgumentKind.ofArgument (setting.assignment value) =
          .assigned setting value := ArgumentKind.ofArgument_assignment readable
      rw [arguments, List.singleton_append, Division.ofArguments.eq_def]
      simp only [kind]
  | valued setting argument spelled value =>
      have kind : ArgumentKind.ofArgument argument = .setting setting :=
        ArgumentKind.ofArgument_of_spelled spelled
      rw [arguments, List.cons_append, List.singleton_append, Division.ofArguments.eq_def]
      simp only [kind]

end OptionGroup

/-! ## Mixtures -/

/-- Options and forwarded arguments are mixed into one list, each kind in its own order. -/
inductive Mixes : List OptionGroup → List ByteText → List ByteText → Prop
  | none : Mixes [] [] []
  | option (group : OptionGroup) {groups : List OptionGroup} {forwarded mixed : List ByteText}
      (onward : Mixes groups forwarded mixed) :
      Mixes (group :: groups) forwarded (group.arguments ++ mixed)
  | forwarded (argument : ByteText) {groups : List OptionGroup}
      {forwarded mixed : List ByteText} (onward : Mixes groups forwarded mixed) :
      Mixes groups (argument :: forwarded) (argument :: mixed)

def argumentsOf (groups : List OptionGroup) : List ByteText :=
  groups.flatMap OptionGroup.arguments

theorem Mixes.ofGroups (groups : List OptionGroup) : Mixes groups [] (argumentsOf groups) := by
  induction groups with
  | nil => exact .none
  | cons group rest induction => exact induction.option group

theorem Mixes.divided {groups : List OptionGroup} {forwarded mixed : List ByteText}
    (areForwarded : ∀ argument ∈ forwarded, ArgumentKind.ofArgument argument = .forwarded)
    (mixes : Mixes groups forwarded mixed) (rest : List ByteText) :
    Division.ofArguments (mixed ++ rest) =
      ⟨argumentsOf groups ++ (Division.ofArguments rest).own,
        forwarded ++ (Division.ofArguments rest).forwarded⟩ := by
  induction mixes with
  | none => rfl
  | option group onward induction =>
      rw [List.append_assoc, group.divided, induction areForwarded]
      simp [Division.withOwn, argumentsOf]
  | forwarded argument onward induction =>
      rw [List.forall_mem_cons] at areForwarded
      rw [List.cons_append, Division.ofArguments.eq_def]
      simp only [areForwarded.1, induction areForwarded.2]
      rfl

/-! ## Arranged mixtures -/

/-- What can stand after a mixture: a separator and arguments that are forwarded as they
are, or nothing. -/
inductive Closes : List ByteText → List ByteText → Prop
  | separator (rest : List ByteText) : Closes rest (separatorText :: rest)
  | nothing : Closes [] []

theorem Closes.divided {rest ending : List ByteText} (closes : Closes rest ending) :
    Division.ofArguments ending = ⟨[], rest⟩ := by
  cases closes with
  | separator =>
      rw [Division.ofArguments.eq_def]
      simp only [ArgumentKind.ofArgument_separator]
  | nothing => rfl

theorem arranged_mixture {groups : List OptionGroup}
    {forwarded mixed rest ending : List ByteText}
    (areForwarded : ∀ argument ∈ forwarded, ArgumentKind.ofArgument argument = .forwarded)
    (mixes : Mixes groups forwarded mixed) (closes : Closes rest ending) :
    arranged (mixed ++ ending) = argumentsOf groups ++ separatorText :: (forwarded ++ rest) := by
  rw [arranged, mixes.divided areForwarded, closes.divided]
  simp [Division.arranged]

/-- However options and forwarded arguments are mixed, they are arranged alike: the options
first and the forwarded arguments after a separator. That is arranged already, and the same
options or the same error are read from every mixture. -/
theorem arrangedCommandLine_mixture (program : ByteText) {groups : List OptionGroup}
    {forwarded rest left leftEnding right rightEnding : List ByteText}
    (areForwarded : ∀ argument ∈ forwarded, ArgumentKind.ofArgument argument = .forwarded)
    (leftMixes : Mixes groups forwarded left) (leftCloses : Closes rest leftEnding)
    (rightMixes : Mixes groups forwarded right) (rightCloses : Closes rest rightEnding) :
    let commandLine := program :: (argumentsOf groups ++ separatorText :: (forwarded ++ rest))
    arrangedCommandLine (program :: (left ++ leftEnding)) = commandLine ∧
      arrangedCommandLine (program :: (right ++ rightEnding)) = commandLine ∧
      arrangedCommandLine commandLine = commandLine ∧
      ∀ fromEnvironment, Options.ofArguments (left ++ leftEnding) fromEnvironment =
        Options.ofArguments (right ++ rightEnding) fromEnvironment := by
  have leftArranged := arranged_mixture areForwarded leftMixes leftCloses
  have rightArranged := arranged_mixture areForwarded rightMixes rightCloses
  have again : arranged (argumentsOf groups ++ separatorText :: (forwarded ++ rest)) =
      argumentsOf groups ++ separatorText :: ([] ++ (forwarded ++ rest)) :=
    arranged_mixture (List.forall_mem_nil _) (Mixes.ofGroups groups) (.separator _)
  refine ⟨?_, ?_, ?_, fun fromEnvironment => ?_⟩
  · rw [arrangedCommandLine, leftArranged]
  · rw [arrangedCommandLine, rightArranged]
  · rw [arrangedCommandLine, again, List.nil_append]
  · rw [Options.ofArguments, Options.ofArguments, leftArranged, rightArranged]

/-! A separator that is the value of a setting moves with it, and does not end the options. -/

def mixedGroups : List OptionGroup :=
  [.flag .verbose (utf8 "-v") (by decide),
   .valued .directory (utf8 "-C") (by decide) separatorText,
   .assigned .compiler (utf8 "a=b") ⟨"a=b", rfl⟩]

theorem mixedGroups_commandLine :
    (∀ argument ∈ ["-O2", "-vx"].map utf8, ArgumentKind.ofArgument argument = .forwarded) ∧
      arrangedCommandLine
          (["p", "-O2", "-v", "-C", "--", "-vx", "--cx=a=b", "--", "-h"].map utf8) =
        ["p", "-v", "-C", "--", "--cx=a=b", "--", "-O2", "-vx", "-h"].map utf8 ∧
      Options.ofArguments (["-O2", "-v", "-C", "--", "-vx", "--cx=a=b", "--", "-h"].map utf8) none =
        Options.ofArguments
          (["-v", "-C", "--", "--cx=a=b", "-O2", "-vx", "--", "-h"].map utf8) none := by
  have areForwarded : ∀ argument ∈ ["-O2", "-vx"].map utf8,
      ArgumentKind.ofArgument argument = .forwarded := by
    decide +kernel
  have left : Mixes mixedGroups (["-O2", "-vx"].map utf8)
      (["-O2", "-v", "-C", "--", "-vx", "--cx=a=b"].map utf8) :=
    .forwarded _ (.option _ (.option _ (.forwarded _ (.option _ .none))))
  have right : Mixes mixedGroups (["-O2", "-vx"].map utf8)
      (["-v", "-C", "--", "--cx=a=b", "-O2", "-vx"].map utf8) :=
    .option _ (.option _ (.option _ (.forwarded _ (.forwarded _ .none))))
  have alike := arrangedCommandLine_mixture (utf8 "p") areForwarded left
    (.separator [utf8 "-h"]) right (.separator [utf8 "-h"])
  exact ⟨areForwarded, alike.1, alike.2.2.2 none⟩

end ExampleBuild
