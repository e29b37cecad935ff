import ExampleBuild.Command

namespace ExampleBuild

/-! Extra arguments reach builds of both kinds. A compiler is handed one after another, while a
project is handed all in one text, from which it can tell them apart only by the spaces. -/

/-! ## Words -/

structure IsWord (text : String) : Prop where
  nonempty : text ≠ ""
  noSpace : ' ' ∉ text.toList

def AreWords (texts : List String) : Prop := ∀ text ∈ texts, IsWord text

instance (text : String) : Decidable (IsWord text) :=
  decidable_of_iff (text ≠ "" ∧ ' ' ∉ text.toList)
    ⟨fun ⟨nonempty, noSpace⟩ => ⟨nonempty, noSpace⟩,
      fun isWord => ⟨isWord.nonempty, isWord.noSpace⟩⟩

instance (texts : List String) : Decidable (AreWords texts) :=
  inferInstanceAs (Decidable (∀ text ∈ texts, IsWord text))

/-- The words of a text are what stands between its spaces, without the gaps. -/
def words (text : String) : List String :=
  ((text.toList.splitOn ' ').filter (· ≠ [])).map String.ofList

theorem areWords_words (text : String) : AreWords (words text) := by
  intro word member
  rcases List.mem_map.mp member with ⟨letters, kept, rfl⟩
  rcases List.mem_filter.mp kept with ⟨isPart, nonempty⟩
  refine ⟨by simpa using nonempty, ?_⟩
  rw [String.toList_ofList]
  exact not_mem_of_mem_splitOn isPart

theorem words_intercalate {texts : List String} (areWords : AreWords texts) :
    words (" ".intercalate texts) = texts := by
  cases texts with
  | nil => rfl
  | cons first rest =>
      have whole : ∀ letters ∈ (first :: rest).map String.toList, ' ' ∉ letters := by
        intro letters member
        rcases List.mem_map.mp member with ⟨text, isText, rfl⟩
        exact (areWords text isText).noSpace
      have kept : ∀ letters ∈ (first :: rest).map String.toList, letters ≠ [] := by
        intro letters member
        rcases List.mem_map.mp member with ⟨text, isText, rfl⟩
        simpa using (areWords text isText).nonempty
      have parts : (" ".intercalate (first :: rest)).toList.splitOn ' ' =
          (first :: rest).map String.toList := by
        rw [String.toList_intercalate]
        exact List.splitOn_intercalate ' ' whole (List.cons_ne_nil _ _)
      rw [words, parts, List.filter_eq_self.mpr (by simpa using kept), List.map_map]
      simp [Function.comp_def]

theorem words_intercalate_iff {texts : List String} :
    words (" ".intercalate texts) = texts ↔ AreWords texts := by
  constructor
  · intro same
    rw [← same]
    exact areWords_words _
  · exact words_intercalate

example : words (" ".intercalate ["-I dir", "", "-g"]) = ["-I", "dir", "-g"] := by decide +kernel

/-! ## What builds receive -/

namespace Command

theorem flagsAssignment_eq (extraArguments : List String) :
    flagsAssignment extraArguments = "CXFLAGS=" ++ " ".intercalate extraArguments := rfl

theorem arguments_of_make {config : Config} {project : String} {base : Environment}
    {command : Command} (made : make config project base = .ok command) :
    command.arguments = [makeDirectoryOption, project, flagsAssignment config.extraArguments] := by
  rw [make] at made
  split at made
  · cases made
  · cases made
    rfl

theorem flagsAssignment_injective {left right : List String} (leftWords : AreWords left)
    (rightWords : AreWords right) (same : flagsAssignment left = flagsAssignment right) :
    left = right := by
  have flags : " ".intercalate left = " ".intercalate right := by
    rw [flagsAssignment_eq, flagsAssignment_eq] at same
    exact String.append_right_inj _ |>.mp same
  rw [← words_intercalate leftWords, flags, words_intercalate rightWords]

/-- Builds of both kinds receive the same extra arguments. A compiler gets them behind its first
four arguments, and the words of what a project gets are these arguments as long as each of them
is a word. Projects with different words to pass on are never made alike. -/
theorem make_passesOn_arguments {config : Config} {project : String} {base : Environment}
    {command : Command} (made : make config project base = .ok command)
    (source artifact : String) :
    (compile config source artifact).arguments.drop 4 = config.extraArguments ∧
    (∃ flags, command.arguments[2]? = some ("CXFLAGS=" ++ flags) ∧
      (words flags = config.extraArguments ↔ AreWords config.extraArguments)) ∧
    ∀ other : Config, AreWords config.extraArguments → AreWords other.extraArguments →
      other.extraArguments ≠ config.extraArguments →
      ∀ otherProject otherBase, make other otherProject otherBase ≠ .ok command := by
  have arguments := arguments_of_make made
  refine ⟨rfl, ⟨" ".intercalate config.extraArguments, ?_, words_intercalate_iff⟩, ?_⟩
  · rw [arguments]
    rfl
  · intro other areWords otherWords different otherProject otherBase alike
    have otherArguments := arguments_of_make alike
    rw [arguments, List.cons.injEq, List.cons.injEq, List.cons.injEq] at otherArguments
    have flags := otherArguments.2.2.1
    exact different (flagsAssignment_injective otherWords areWords flags.symm)

/-! Words with a quote, a line break and nothing but a sign in them, and fewer words with the
same letters. -/

def quotedFlags : Config :=
  ((Config.ofDirectory .linux (utf8 "/work")).withCompiler "/opt/cx/bin/cx").withExtraArguments
    ["-DNAME=\"x\"", "-I\nd", "="]

def mergedFlags : Config := quotedFlags.withExtraArguments ["-DNAME=\"x\"", "-I\nd="]

theorem make_passesOn_quotedFlags :
    let base := Environment.ofPairs [(utf8 "PATH", utf8 "/usr/bin")]
    ∃ command, make quotedFlags "demo" base = .ok command ∧
      (compile quotedFlags "a.cx" "a").arguments.drop 4 = quotedFlags.extraArguments ∧
      (∃ flags, command.arguments[2]? = some ("CXFLAGS=" ++ flags) ∧
        words flags = quotedFlags.extraArguments) ∧
      ∀ otherBase, make mergedFlags "demo" otherBase ≠ .ok command := by
  intro base
  have made : make quotedFlags "demo" base = .ok _ := rfl
  have areWords : AreWords quotedFlags.extraArguments := by decide
  have otherWords : AreWords mergedFlags.extraArguments := by decide
  rcases make_passesOn_arguments made "a.cx" "a" with ⟨behind, ⟨flags, third, asWords⟩, differs⟩
  exact ⟨_, made, behind, ⟨flags, third, asWords.mpr areWords⟩,
    differs mergedFlags areWords otherWords (by decide) "demo"⟩

end Command

end ExampleBuild
