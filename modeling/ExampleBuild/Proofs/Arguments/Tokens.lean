import ExampleBuild.Proofs.Arguments.Spelling

namespace ExampleBuild

/-! What an argument comes to where options are read, said by how it is spelled. Every spelling
of an option comes to that option, and what is no operand looks like an option. -/

open ArgumentKind (separatorText)
open OwnOption (hyphen equalsSign)

/-! ## Names and letters -/

namespace OwnOption

theorem ofName?_eq_some_iff {name : ByteText} {option : OwnOption} :
    ofName? name = some option ↔ utf8 option.longName = name := by
  constructor
  · intro found
    simpa using List.find?_some found
  · intro named
    cases found : ofName? name with
    | none =>
        have unnamed := List.find?_eq_none.mp found option option.mem_all
        exact absurd named (by simpa using unnamed)
    | some other =>
        have otherNamed : utf8 other.longName = name := by simpa using List.find?_some found
        have sameSpelling : other.longSpelling = option.longSpelling := by
          rw [longSpelling_eq, longSpelling_eq, named, otherNamed]
        rw [longSpelling_injective sameSpelling]

private theorem letters_known : ∀ number : Fin UInt8.size,
    ofLetter? (UInt8.ofFin number) ≠ none ↔ UInt8.ofFin number ∈ utf8 "CovhV" := by
  decide +kernel

theorem ofLetter?_ne_none_iff {letter : UInt8} :
    ofLetter? letter ≠ none ↔ letter ∈ utf8 "CovhV" :=
  letters_known letter.toFin

end OwnOption

theorem Occurrence.ofLetters?_ne_none_iff {letters : ByteText} :
    ofLetters? letters ≠ none ↔ ∀ letter ∈ letters, letter ∈ utf8 "CovhV" := by
  induction letters with
  | nil => simp [ofLetters?]
  | cons letter letters induction =>
      rw [List.forall_mem_cons, ← induction, ← OwnOption.ofLetter?_ne_none_iff, ofLetters?]
      cases OwnOption.ofLetter? letter with
      | none => simp
      | some option => cases option <;> cases ofLetters? letters <;> simp

/-! ## Tokens -/

namespace Token

variable {text : ByteText}

theorem ofArgument_long (nonempty : text ≠ []) :
    ofArgument (hyphen :: hyphen :: text) =
      .long (nameAndValue text).1 (nameAndValue text).2 := by
  simp [ofArgument, nonempty]

theorem ofArgument_cluster {letter : UInt8} (other : letter ≠ hyphen) :
    ofArgument (hyphen :: letter :: text) = .cluster (letter :: text) := by
  simp [ofArgument, other]

theorem ofArgument_operand {argument : ByteText}
    (plain : ∀ letter text, argument ≠ hyphen :: letter :: text) :
    ofArgument argument = .operand := by
  match argument with
  | [] => rfl
  | [_] => rfl
  | first :: second :: rest =>
      have notHyphen : first ≠ hyphen := by
        intro same
        exact plain second rest (same ▸ rfl)
      simp [ofArgument, notHyphen]

end Token

/-! ## Values -/

/-- An argument that is known for an option's, though not as the value of another: its
long spelling, alone or with an equals sign after it, or a hyphen and letters of options. -/
def LooksOwn (argument : ByteText) : Prop :=
  (∃ option : OwnOption, argument = option.longSpelling ∨
    ∃ value, argument = option.longSpelling ++ equalsSign :: value) ∨
  ∃ letters, letters ≠ [] ∧ argument = 45 :: letters ∧ ∀ letter ∈ letters, letter ∈ utf8 "CovhV"

/-- A name that starts like a long spelling, up to an equals sign if there is one, is
well-formed text. -/
def HasReadableName (argument : ByteText) : Prop :=
  ∀ name, equalsSign ∉ name →
    (argument = name ∨ ∃ value, argument = name ++ equalsSign :: value) →
      separatorText <+: name → name.IsText

def CanBeValue (argument : ByteText) : Prop :=
  argument ≠ separatorText ∧ ¬ LooksOwn argument ∧ HasReadableName argument

theorem looksOwn_iff {argument : ByteText} : LooksOwn argument ↔
    (∃ option : OwnOption, option.longSpelling = (Token.nameAndValue argument).1) ∨
      ∃ letters, letters ≠ [] ∧ argument = hyphen :: letters ∧
        Occurrence.ofLetters? letters ≠ none := by
  have own (option : OwnOption) : option.longSpelling = (Token.nameAndValue argument).1 ↔
      argument = option.longSpelling ∨
        ∃ value, argument = option.longSpelling ++ equalsSign :: value := by
    have plain := OwnOption.no_equalsSign option option.mem_all _ List.mem_cons_self
    rw [eq_comm, Token.nameAndValue_fst_iff, and_iff_right plain]
  simp only [own, Occurrence.ofLetters?_ne_none_iff]
  rfl

theorem hasReadableName_iff {argument : ByteText} : HasReadableName argument ↔
    (separatorText <+: (Token.nameAndValue argument).1 →
      (Token.nameAndValue argument).1.IsText) := by
  constructor
  · intro each
    rcases Token.nameAndValue_fst_iff.mp rfl with ⟨plain, split⟩
    exact each _ plain split
  · intro named name plain split
    rw [← Token.nameAndValue_fst_iff.mpr ⟨plain, split⟩]
    exact named

theorem hasReadableName_of_isText {argument : ByteText} (isText : argument.IsText) :
    HasReadableName argument := by
  intro name _ split _
  rcases split with rfl | ⟨value, rfl⟩
  · exact isText
  · exact (ByteText.isText_cut_iff.mp isText).1

theorem canBeValue_iff_of_short {argument : ByteText}
    (short : ∀ text, argument ≠ hyphen :: hyphen :: text) :
    CanBeValue argument ↔ ∀ letters, letters ≠ [] → argument = hyphen :: letters →
      Occurrence.ofLetters? letters = none := by
  have notLong (option : OwnOption) :
      option.longSpelling ≠ (Token.nameAndValue argument).1 := by
    intro same
    rw [option.longSpelling_eq] at same
    rcases (Token.nameAndValue_fst_iff.mp same.symm).2 with whole | ⟨value, split⟩
    · exact short _ whole
    · exact short _ split
  have readable : HasReadableName argument := by
    rw [hasReadableName_iff]
    intro begins
    rcases begins with ⟨rest, same⟩
    rcases (Token.nameAndValue_fst_iff.mp same.symm).2 with whole | ⟨value, split⟩
    · exact absurd whole (short _)
    · exact absurd split (short _)
  have notSeparator : argument ≠ separatorText := short []
  simp only [CanBeValue, looksOwn_iff, notLong, exists_false, false_or, not_exists, not_and,
    Classical.not_not, ne_eq, notSeparator, not_false_eq_true, readable, true_and, and_true]

theorem canBeValue_long_iff {text : ByteText} (nonempty : text ≠ []) :
    CanBeValue (hyphen :: hyphen :: text) ↔
      (∀ option : OwnOption, utf8 option.longName ≠ (Token.nameAndValue text).1) ∧
        (Token.nameAndValue text).1.IsText := by
  have named : (Token.nameAndValue (hyphen :: hyphen :: text)).1 =
      hyphen :: hyphen :: (Token.nameAndValue text).1 := by
    have plain : hyphen ≠ equalsSign := by decide
    rw [Token.nameAndValue_fst_cons plain, Token.nameAndValue_fst_cons plain]
  have notSeparator : hyphen :: hyphen :: text ≠ separatorText := by
    intro same
    exact nonempty (List.cons.inj (List.cons.inj same).2).2
  have notCluster : ¬ ∃ letters, letters ≠ [] ∧ hyphen :: hyphen :: text = hyphen :: letters ∧
      Occurrence.ofLetters? letters ≠ none := by
    intro cluster
    rcases cluster with ⟨letters, -, same, known⟩
    cases same
    have letter := Occurrence.ofLetters?_ne_none_iff.mp known hyphen List.mem_cons_self
    exact absurd letter (by decide)
  have begins : separatorText <+: hyphen :: hyphen :: (Token.nameAndValue text).1 := ⟨_, rfl⟩
  rw [CanBeValue, looksOwn_iff, hasReadableName_iff, named, or_iff_left notCluster,
    and_iff_right notSeparator, forall_prop_of_true begins, ByteText.isText_hyphen_cons_iff,
    ByteText.isText_hyphen_cons_iff, not_exists]
  simp only [OwnOption.longSpelling_eq, List.cons.injEq, true_and, ne_eq]

namespace Occurrence

theorem ofName_eq_operand_iff {name : ByteText} {value? : Option ByteText} :
    ofName name value? = .operand ↔
      (∀ option : OwnOption, utf8 option.longName ≠ name) ∧ name.IsText := by
  rw [ByteText.isText_iff, ofName.eq_def]
  cases found : OwnOption.ofName? name with
  | none =>
      have unnamed (option : OwnOption) : utf8 option.longName ≠ name := by
        intro named
        rw [OwnOption.ofName?_eq_some_iff.mpr named] at found
        cases found
      cases name.decode? <;> simp [unnamed]
  | some option =>
      have named := OwnOption.ofName?_eq_some_iff.mp found
      have known : ¬ ∀ option : OwnOption, utf8 option.longName ≠ name :=
        fun unnamed => unnamed option named
      cases option <;> cases value? <;> simp [known]

/-- Exactly what can be a value is an operand. -/
theorem ofArgument_eq_operand_iff {argument : ByteText} :
    ofArgument argument = .operand ↔ CanBeValue argument := by
  -- The cases are those of a token. One hyphen and two ask for different things, so what can
  -- be a value is said for each of them first.
  by_cases plain : ∀ letter text, argument ≠ hyphen :: letter :: text
  · have canBe : CanBeValue argument := by
      rw [canBeValue_iff_of_short (plain hyphen)]
      intro letters nonempty same
      rcases List.exists_cons_of_ne_nil nonempty with ⟨letter, text, rfl⟩
      exact absurd same (plain letter text)
    rw [ofArgument, Token.ofArgument_operand plain]
    exact ⟨fun _ => canBe, fun _ => rfl⟩
  · simp only [not_forall, Classical.not_not] at plain
    rcases plain with ⟨letter, text, rfl⟩
    by_cases long : letter = hyphen
    · subst long
      by_cases empty : text = []
      · subst empty
        exact ⟨nofun, fun canBe => absurd rfl canBe.1⟩
      · rw [ofArgument, Token.ofArgument_long empty, ofToken, ofName_eq_operand_iff,
          canBeValue_long_iff empty]
    · have short (other : ByteText) : hyphen :: letter :: text ≠ hyphen :: hyphen :: other := by
        intro same
        exact long (List.cons.inj (List.cons.inj same).2).1
      rw [ofArgument, Token.ofArgument_cluster long, ofToken, canBeValue_iff_of_short short]
      have cluster : (∀ letters, letters ≠ [] → hyphen :: letter :: text = hyphen :: letters →
          ofLetters? letters = none) ↔ ofLetters? (letter :: text) = none := by
        constructor
        · intro each
          exact each _ (List.cons_ne_nil _ _) rfl
        · rintro unknown _ - ⟨⟩
          exact unknown
      rw [cluster]
      cases ofLetters? (letter :: text) <;> simp

/-! ## Options -/

def ofOption : OwnOption → Occurrence
  | .flag own => .options [own] none
  | .setting own => .options [] (some (own, none))

private theorem spellings_occur : ∀ option ∈ OwnOption.all, ∀ argument ∈ option.spellings,
    ofArgument argument = ofOption option := by
  decide +kernel

theorem ofArgument_of_spelled {argument : ByteText} {option : OwnOption}
    (spelled : argument ∈ option.spellings) : ofArgument argument = ofOption option :=
  spellings_occur option option.mem_all argument spelled

theorem ofArgument_separator : ofArgument separatorText = .escape := rfl

theorem ofArgument_assignment (setting : Setting) (value : ByteText) :
    ofArgument (setting.assignment value) = .options [] (some (setting, some value)) := by
  have plain : equalsSign ∉ utf8 (OwnOption.setting setting).longName := by
    intro member
    apply setting.longSpelling_plain
    rw [Setting.longSpelling, OwnOption.longSpelling_eq]
    exact List.mem_cons_of_mem _ (List.mem_cons_of_mem _ member)
  rw [ofArgument, Setting.assignment, Setting.longSpelling, OwnOption.longSpelling_eq,
    List.cons_append, List.cons_append, Token.ofArgument_long (by simp),
    Token.nameAndValue_append plain, ofToken, ofName.eq_def,
    OwnOption.ofName?_eq_some_iff.mpr (rfl : utf8 (OwnOption.setting setting).longName = _)]

end Occurrence

end ExampleBuild
