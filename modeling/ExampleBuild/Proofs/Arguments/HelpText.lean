import ExampleBuild.Arguments.Help

namespace ExampleBuild

/-! The help says how the program is used, whatever the environment sets for the compiler.
With emphasis the codes stand in its lines, and without it they are taken out again. -/

namespace Terminal

def isPlain (text : String) : Bool := text.toList.all Place.outside.keeps

theorem withoutCodes_append {text : String} (plain : isPlain text = true) (rest : List Char) :
    withoutCodes .outside (text.toList ++ rest) = text.toList ++ withoutCodes .outside rest := by
  rw [isPlain, List.all_eq_true] at plain
  generalize text.toList = letters at plain ⊢
  induction letters with
  | nil => rfl
  | cons letter others induction =>
      rw [List.forall_mem_cons] at plain
      rw [List.cons_append, withoutCodes, if_pos plain.1, induction plain.2, List.cons_append]

/-- Nothing in a number ends the code that it stands in. -/
def isNumber (text : String) : Bool :=
  text.toList.all fun letter =>
    !Place.longCode.keeps letter && Place.longCode.after letter = .longCode

theorem withoutCodes_code {number : String} (numeric : isNumber number = true)
    (rest : List Char) :
    withoutCodes .outside ((code number).toList ++ rest) = withoutCodes .outside rest := by
  have opened : withoutCodes .outside ((code number).toList ++ rest) =
      withoutCodes .longCode (number.toList ++ 'm' :: rest) := by
    rw [code, String.toList_append, String.toList_append, List.append_assoc, List.append_assoc]
    rfl
  rw [isNumber, List.all_eq_true] at numeric
  rw [opened]
  generalize number.toList = letters at numeric ⊢
  induction letters with
  | nil => rfl
  | cons letter others induction =>
      rw [List.forall_mem_cons, Bool.and_eq_true, decide_eq_true_eq] at numeric
      rw [List.cons_append, withoutCodes, if_neg (by simpa using numeric.1.1), numeric.1.2,
        induction numeric.2]

theorem withoutCodes_styled {numbers : List String}
    (numeric : ∀ number ∈ numbers, isNumber number = true) {text : String}
    (plain : isPlain text = true) (rest : List Char) :
    withoutCodes .outside ((styled numbers text).toList ++ rest) =
      text.toList ++ withoutCodes .outside rest := by
  have opened (shown : List Char) :
      withoutCodes .outside ((String.join (numbers.map code)).toList ++ shown) =
        withoutCodes .outside shown := by
    induction numbers with
    | nil => rfl
    | cons number others induction =>
        rw [List.forall_mem_cons] at numeric
        rw [List.map_cons, String.join_cons, String.toList_append, List.append_assoc,
          withoutCodes_code numeric.1, induction numeric.2]
  rw [styled, String.toList_append, String.toList_append, List.append_assoc, List.append_assoc,
    opened, withoutCodes_append plain, withoutCodes_code (by decide)]

end Terminal

theorem Parts.separated_append {separator : Char} {line : List Char}
    (unbroken : separator ∉ line) (rest : List Char) :
    separated separator (line ++ separator :: rest) = line :: separated separator rest := by
  induction line with
  | nil => simp [separated]
  | cons letter others induction =>
      rw [List.mem_cons, not_or] at unbroken
      rw [List.cons_append, separated, if_neg fun same => unbroken.1 same.symm,
        induction unbroken.2]

namespace Help

def usageLine (emphasis : Bool) : String :=
  if emphasis then
    "\x1b[1m\x1b[4mUsage:\x1b[0m \x1b[1mbuild-examples\x1b[0m [OPTIONS] [CX_ARGS]..."
  else "Usage: build-examples [OPTIONS] [CX_ARGS]..."

theorem usageLine_true : usageLine true =
    Emphasis.heading "Usage:" ++ " " ++ Emphasis.literal ArgumentError.programName ++
      " [OPTIONS] [CX_ARGS]..." := by
  decide +kernel

/-- The usage stands between what the program is for and all that the help explains. -/
theorem toList_text (value : Option ByteText) :
    ∃ rest, (text value).toList = ArgumentError.purpose.toList ++ '\n' :: '\n' ::
      ((usageLine true).toList ++ '\n' :: rest) := by
  rw [text, String.toList_intercalate, List.map_cons, List.map_cons, List.map_cons,
    List.map_cons, List.intercalate_cons_cons, List.intercalate_cons_cons,
    List.intercalate_cons_cons, ← usageLine_true]
  generalize List.intercalate _ (_ :: _) = rest
  exact ⟨rest, by simp⟩

theorem toList_plain (value : Option ByteText) :
    ∃ rest, (Terminal.plain (text value)).toList = ArgumentError.purpose.toList ++ '\n' :: '\n' ::
      ((usageLine false).toList ++ '\n' :: rest) := by
  rcases toList_text value with ⟨rest, same⟩
  refine ⟨Terminal.withoutCodes .outside rest, ?_⟩
  rw [Terminal.plain, String.toList_ofList, same, Terminal.withoutCodes_append (by decide)]
  refine congrArg (fun shown => ArgumentError.purpose.toList ++ '\n' :: '\n' :: shown) ?_
  rw [usageLine_true]
  simp only [String.toList_append, List.append_assoc]
  rw [Emphasis.heading, Terminal.withoutCodes_styled (by decide) (by decide),
    Terminal.withoutCodes_append (by decide), Emphasis.literal,
    Terminal.withoutCodes_styled (by decide) (by decide),
    Terminal.withoutCodes_append (by decide)]
  simp only [← List.append_assoc, ← String.toList_append]
  rfl

theorem usageLine_mem_lines (emphasis : Bool) (value : Option ByteText) :
    usageLine emphasis ∈ lines emphasis value := by
  have shown : ∃ rest, (Emphasis.shown emphasis (text value)).toList =
      ArgumentError.purpose.toList ++ '\n' :: '\n' ::
        ((usageLine emphasis).toList ++ '\n' :: rest) := by
    cases emphasis with
    | true => exact toList_text value
    | false => exact toList_plain value
  have unbroken : '\n' ∉ (usageLine emphasis).toList := by cases emphasis <;> decide
  rcases shown with ⟨rest, same⟩
  rw [lines, Parts.lines, Parts.between, same, Parts.separated_append (by decide),
    Parts.separated, if_pos rfl, Parts.separated_append unbroken]
  simp

end Help

end ExampleBuild
