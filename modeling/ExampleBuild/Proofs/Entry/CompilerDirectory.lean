import ExampleBuild.Command
import ExampleBuild.Proofs.Path.Absolute
import ExampleBuild.Proofs.Path.Parent

namespace ExampleBuild

/-! A compiler is given with a directory when its path has two components or more. The directory
is as much of the text as it takes for all of them but the last. -/

section

variable {compiler : String} {directory : Path}

theorem compilerDirectory?_eq_some_iff :
    compilerDirectory? compiler = some directory ↔
      Path.parent? (utf8 compiler) = some directory ∧ directory ≠ [] := by
  simp [compilerDirectory?, Option.filter_eq_some_iff]

theorem compilerDirectory?_ne_none_iff :
    compilerDirectory? compiler ≠ none ↔ 2 ≤ (Path.components (utf8 compiler)).length := by
  rw [Option.ne_none_iff_exists']
  simp only [compilerDirectory?_eq_some_iff]
  rcases Path.parent?_cases (utf8 compiler) with ⟨lost, few⟩ | ⟨parent, found, -, -, shortest⟩
  · rcases few with nothing | root
    · simp [lost, nothing]
    · simp [lost, root]
  · rw [← Path.parent_ne_nil_iff shortest]
    simp [found]

theorem directory_isShortest (given : compilerDirectory? compiler = some directory) :
    Path.IsShortestBeginning (Path.HasAllButLast (utf8 compiler)) (utf8 compiler) directory := by
  have parent := (compilerDirectory?_eq_some_iff.mp given).1
  rcases Path.parent?_cases (utf8 compiler) with ⟨lost, -⟩ | ⟨own, found, -, -, shortest⟩
  · simp [lost] at parent
  · rw [found] at parent
    cases parent
    exact shortest

theorem isAbsolute_directory (given : compilerDirectory? compiler = some directory) :
    directory.isAbsolute = Path.isAbsolute (utf8 compiler) :=
  Path.isAbsolute_of_isPrefix (directory_isShortest given).isBeginning
    (compilerDirectory?_eq_some_iff.mp given).2

theorem names_ne_nil_of_directory (given : compilerDirectory? compiler ≠ none) :
    Path.names (utf8 compiler) ≠ [] := by
  intro unnamed
  have several := compilerDirectory?_ne_none_iff.mp given
  rw [Path.components_eq, unnamed, List.map_nil, List.append_nil] at several
  rcases Path.beginning_cases (utf8 compiler) with start | start | start <;> simp [start] at several

theorem exists_text_of_directory (given : compilerDirectory? compiler = some directory) :
    ∃ front : String, utf8 front = directory ∧ front.toList <+: compiler.toList := by
  have shortest := directory_isShortest given
  have readable : ∀ name ∈ directory.names, name.legible = name := by
    intro name member
    have component := Path.named_mem_components_iff.mpr member
    rw [shortest.wanted] at component
    have inCompiler := Path.named_mem_components_iff.mp (List.mem_of_mem_dropLast component)
    exact Path.legible_of_mem_names inCompiler
  have text : utf8 directory.shown = directory := Path.legible_eq_self readable
  refine ⟨directory.shown, text, ByteText.toList_isPrefix ?_⟩
  rw [text]
  exact shortest.isBeginning

end

/-- A compiler is given with a directory when its path has two components or more, of which the
first one may be the root or a `.` and all others are names. The directory is the shortest
beginning of the text that has all of them but the last. -/
theorem compilerDirectory?_isShortest (compiler : String) :
    let path : Path := utf8 compiler
    path.components = path.beginning ++ path.names.map .named ∧
    (compilerDirectory? compiler ≠ none ↔ 2 ≤ path.components.length) ∧
    ∀ directory, compilerDirectory? compiler = some directory →
      Path.IsShortestBeginning (Path.HasAllButLast path) path directory ∧
      (∃ front : String, utf8 front = directory ∧ front.toList <+: compiler.toList) ∧
      directory ≠ [] ∧ (directory.endsInSlash = true ↔ directory = [Path.slash]) ∧
      directory.isAbsolute = path.isAbsolute := by
  intro path
  refine ⟨path.components_eq, compilerDirectory?_ne_none_iff, fun directory given => ?_⟩
  have shortest := directory_isShortest given
  refine ⟨shortest, exists_text_of_directory given, (compilerDirectory?_eq_some_iff.mp given).2,
    ⟨Path.parent_eq_root shortest, ?_⟩, isAbsolute_directory given⟩
  rintro rfl
  rfl

/-! A compiler whose path starts with a `.` of its own and has idle slashes and dots before,
within and behind its directory, which ends in a `..`. -/

theorem dottedCompiler_isShortest :
    let path : Path := utf8 ".//é/./..//./cx//."
    compilerDirectory? ".//é/./..//./cx//." = some (utf8 ".//é/./..") ∧
      path.components = [.here, .named (utf8 "é"), .named (utf8 ".."), .named (utf8 "cx")] ∧
      Path.IsShortestBeginning (Path.HasAllButLast path) path (utf8 ".//é/./..") ∧
      Path.isAbsolute (utf8 ".//é/./..") = path.isAbsolute := by
  intro path
  have given : compilerDirectory? ".//é/./..//./cx//." = some (utf8 ".//é/./..") := by
    decide +kernel
  have components : path.components =
      [.here, .named (utf8 "é"), .named (utf8 ".."), .named (utf8 "cx")] := by
    decide +kernel
  rcases (compilerDirectory?_isShortest ".//é/./..//./cx//.").2.2 _ given with
    ⟨shortest, -, -, -, sameStart⟩
  exact ⟨given, components, shortest, sameStart⟩

example : compilerDirectory? "///cx" = some (utf8 "/") := by decide +kernel

end ExampleBuild
