import ExampleBuild.CompilerPath
import ExampleBuild.Proofs.Entry.CompilerDirectory
import ExampleBuild.Proofs.Entry.ProjectEnvironment

namespace ExampleBuild

/-! Builds run elsewhere than the program was started, so the path of a compiler must not
depend on where they run. A relative one would put a relative directory into the search path
of projects, where it could lead to any other compiler. -/

/-- How a current directory is answered: from the root, with one slash before each name. -/
def IsPlain (directory : Path) : Prop :=
  directory = Path.fromRoot false false directory.names

instance (directory : Path) : Decidable (IsPlain directory) := inferInstanceAs (Decidable (_ = _))

/-- How the command of a project searches for programs: as the run does, or first in a
directory that is the same wherever the project is made. It may also be that the directory
cannot be written into a search path. -/
inductive SearchesAlike (platform : Platform) (base : Environment) :
    Except RunError Command → Prop
  | refused (directory : Path) :
      SearchesAlike platform base (.error (.unwritableSearchPath directory))
  | unchanged {command : Command} (same : command.environment = some base) :
      SearchesAlike platform base (.ok command)
  | first {command : Command} {environment : Environment} {directory : Path} {name : ByteText}
      (given : command.environment = some environment)
      (isAbsolute : directory.isAbsolute = true) (holds : HoldsSearchPath platform base name)
      (putsFirst : PutsFirst directory name base environment) :
      SearchesAlike platform base (.ok command)

/-! ## Where a project searches -/

theorem Command.make_searchesAlike {config : Config}
    (anchored : compilerDirectory? config.compiler ≠ none →
      Path.isAbsolute (utf8 config.compiler) = true)
    (project : String) (base : Environment) :
    SearchesAlike config.platform base (Command.make config project base) := by
  cases found : compilerDirectory? config.compiler with
  | none =>
      have made : projectEnvironment config.compiler config.platform base = .ok base := by
        rw [projectEnvironment, found]
      rw [Command.make, made]
      exact .unchanged rfl
  | some directory =>
      have isAbsolute : directory.isAbsolute = true :=
        (isAbsolute_directory found).trans (anchored (by simp [found]))
      by_cases colon : SearchPath.colon ∈ directory
      · have refused : Command.make config project base =
            .error (.unwritableSearchPath directory) :=
          Command.make_eq_error_iff.mpr
            ⟨directory, by simp [unwritableDirectory?, found, colon], rfl⟩
        rw [refused]
        exact .refused directory
      · rw [Command.make, projectEnvironment_eq_ok found colon]
        exact .first rfl isAbsolute (searchPathNameIn_holds config.platform base)
          (putsFirst_insert colon _ base)

/-! ## The anchored path -/

section

variable {canonical : Path → Except SystemError Path} {current : Path} {compiler : String}

theorem anchoredCompiler_of_bare (bare : compilerDirectory? compiler = none)
    (currentDirectory : Except SystemError Path) :
    anchoredCompiler canonical currentDirectory compiler = compiler := by
  rw [anchoredCompiler, bare]

theorem anchoredCompiler_of_found (given : compilerDirectory? compiler ≠ none) {path : Path}
    (found : canonical (utf8 compiler) = .ok path)
    (currentDirectory : Except SystemError Path) :
    anchoredCompiler canonical currentDirectory compiler = path.shown := by
  rcases Option.ne_none_iff_exists'.mp given with ⟨directory, given⟩
  rw [anchoredCompiler, given]
  simp only [found]

theorem utf8_anchoredCompiler_of_lost (given : compilerDirectory? compiler ≠ none)
    {cause : SystemError} (lost : canonical (utf8 compiler) = .error cause) :
    utf8 (anchoredCompiler canonical (.ok current) compiler) =
      (Path.absolute current (utf8 compiler)).legible := by
  rcases Option.ne_none_iff_exists'.mp given with ⟨directory, given⟩
  rw [anchoredCompiler, given]
  simp only [lost]
  rfl

theorem anchoredCompiler_isAbsolute (rooted : current.isAbsolute = true)
    (rootedAnswer : ∀ path, canonical (utf8 compiler) = .ok path → path.isAbsolute = true)
    (given : compilerDirectory? compiler ≠ none) :
    Path.isAbsolute (utf8 (anchoredCompiler canonical (.ok current) compiler)) = true := by
  cases followed : canonical (utf8 compiler) with
  | ok path =>
      rw [anchoredCompiler_of_found given followed]
      exact Path.isAbsolute_legible (rootedAnswer path followed)
  | error cause =>
      rw [utf8_anchoredCompiler_of_lost given followed]
      exact Path.isAbsolute_legible
        (Path.isAbsolute_absolute rooted (names_ne_nil_of_directory given))

theorem anchoredCompiler_eq_self {second closing : Bool} {names : List ByteText}
    (areNames : ∀ name ∈ names, Path.IsName name) (nonempty : names ≠ [])
    (spelled : utf8 compiler = Path.fromRoot second closing names) {cause : SystemError}
    (lost : canonical (utf8 compiler) = .error cause)
    (currentDirectory : Except SystemError Path) :
    anchoredCompiler canonical currentDirectory compiler = compiler := by
  have own (directory : Path) : (Path.absolute directory (utf8 compiler)).shown = compiler := by
    rw [spelled, Path.absolute_fromRoot areNames nonempty, ← spelled, ByteText.shown_utf8]
  have isAbsolute : Path.isAbsolute (utf8 compiler) = true := by
    rw [spelled]
    exact Path.isAbsolute_fromRoot _ _ _
  rw [anchoredCompiler]
  split
  · rfl
  · simp only [lost]
    cases currentDirectory with
    | ok directory => exact own directory
    | error cause => exact (if_pos isAbsolute).trans (own [])

theorem anchoredCompiler_of_relative (rooted : current.isAbsolute = true)
    (given : compilerDirectory? compiler ≠ none)
    (isRelative : Path.isAbsolute (utf8 compiler) = false) {cause : SystemError}
    (lost : canonical (utf8 compiler) = .error cause) :
    utf8 (anchoredCompiler canonical (.ok current) compiler) =
      current.opened.legible ++ ByteText.joined Path.slash (Path.names (utf8 compiler)) ++
        if Path.endsInSlash (utf8 compiler) then [Path.slash] else [] := by
  rw [utf8_anchoredCompiler_of_lost given lost,
    Path.absolute_of_isRelative isRelative (Path.ne_nil_of_isAbsolute rooted)
      (names_ne_nil_of_directory given),
    Path.legible_append_closing, Path.legible_opened_append, Path.legible_joined_names,
    Path.names_map_legible]

/-- A compiler with a directory gets an absolute path, and any other stays as it is. Where it
leads nowhere, the path goes through the names of the current directory and its own ones, and
is left alone from then on. No project searches for programs in a relative directory that was
not in its search path before. -/
theorem anchoredCompiler_isAnchored (rooted : current.isAbsolute = true)
    (rootedAnswer : ∀ path, canonical (utf8 compiler) = .ok path → path.isAbsolute = true) :
    let anchored := anchoredCompiler canonical (.ok current) compiler
    let names := (Path.namesFrom current (utf8 compiler)).map ByteText.legible
    let closing := Path.endsInSlash (utf8 compiler)
    (compilerDirectory? compiler = none → anchored = compiler) ∧
    (compilerDirectory? compiler ≠ none → Path.isAbsolute (utf8 anchored) = true ∧
      ∀ cause, canonical (utf8 compiler) = .error cause →
        Path.components (utf8 anchored) = .root :: names.map .named ∧
        (Path.isAbsolute (utf8 compiler) = false → utf8 anchored =
          current.opened.legible ++ ByteText.joined Path.slash (Path.names (utf8 compiler)) ++
            if closing then [Path.slash] else []) ∧
        (Path.isAbsolute (utf8 compiler) = true ∨ IsPlain current →
          utf8 anchored = Path.fromRoot (Path.startsWithTwo (utf8 compiler)) closing names ∧
          ∀ laterCanonical later laterCause, laterCanonical (utf8 anchored) = .error laterCause →
            anchoredCompiler laterCanonical later anchored = anchored)) ∧
    ∀ config : Config, config.compiler = anchored → ∀ project base,
      SearchesAlike config.platform base (Command.make config project base) := by
  intro anchored names closing
  have isAbsolute (given : compilerDirectory? compiler ≠ none) :
      Path.isAbsolute (utf8 anchored) = true :=
    anchoredCompiler_isAbsolute rooted rootedAnswer given
  refine ⟨fun bare => anchoredCompiler_of_bare bare _, fun given => ⟨isAbsolute given,
    fun cause lost => ⟨?_, fun isRelative => ?_, fun plain => ?_⟩⟩, fun config chosen => ?_⟩
  · rw [Path.components_of_isAbsolute (isAbsolute given),
      utf8_anchoredCompiler_of_lost given lost, Path.names_legible,
      Path.names_absolute rooted (names_ne_nil_of_directory given)]
  · exact anchoredCompiler_of_relative rooted given isRelative lost
  · have named := names_ne_nil_of_directory given
    have fromRoot :
        utf8 anchored = Path.fromRoot (Path.startsWithTwo (utf8 compiler)) closing names := by
      rw [utf8_anchoredCompiler_of_lost given lost, Path.absolute_eq_fromRoot named plain,
        Path.legible_fromRoot]
    have areNames : ∀ name ∈ names, Path.IsName name := by
      intro name member
      rcases List.mem_map.mp member with ⟨own, isOwn, rfl⟩
      exact Path.isName_legible (Path.namesFrom_isName own isOwn)
    have nonempty : names ≠ [] := by simp [names, Path.namesFrom, named]
    exact ⟨fromRoot, fun _ later _ lostAgain =>
      anchoredCompiler_eq_self areNames nonempty fromRoot lostAgain later⟩
  · apply Command.make_searchesAlike
    rw [chosen]
    intro given
    refine isAbsolute fun bare => given ?_
    rwa [show anchored = compiler from anchoredCompiler_of_bare bare _]

end

/-! A compiler that leads nowhere, given relative to a directory whose name is not UTF-8. -/

namespace Rehearsal

def illFormedDirectory : Path := utf8 "/home/" ++ [0xFF]

def leadsNowhere (_ : Path) : Except SystemError Path := .error .notFound

theorem lostCompiler_isAnchored :
    illFormedDirectory.isAbsolute = true ∧
    (∀ path, leadsNowhere (utf8 "./build/..//cx/") = .ok path → path.isAbsolute = true) ∧
    compilerDirectory? "./build/..//cx/" ≠ none ∧ IsPlain illFormedDirectory ∧
    ∃ anchored,
      anchoredCompiler leadsNowhere (.ok illFormedDirectory) "./build/..//cx/" = anchored ∧
      utf8 anchored = utf8 "/home/\uFFFD/build/../cx/" ∧
      anchoredCompiler leadsNowhere (.error .notFound) anchored = anchored ∧
      ∀ base, SearchesAlike .linux base
        (Command.make ((Config.ofDirectory .linux []).withCompiler anchored) "demo" base) := by
  have rooted : illFormedDirectory.isAbsolute = true := rfl
  have rootedAnswer :
      ∀ path, leadsNowhere (utf8 "./build/..//cx/") = .ok path → path.isAbsolute = true := by
    intro path found
    cases found
  have given : compilerDirectory? "./build/..//cx/" ≠ none := by decide +kernel
  have plain : IsPlain illFormedDirectory := by decide +kernel
  rcases anchoredCompiler_isAnchored rooted rootedAnswer with ⟨-, lost, searches⟩
  rcases ((lost given).2 .notFound rfl).2.2 (.inr plain) with ⟨spelled, again⟩
  refine ⟨rooted, rootedAnswer, given, plain, _, rfl, ?_, ?_, fun base => ?_⟩
  · rw [spelled]
    decide +kernel
  · exact again leadsNowhere (.error .notFound) .notFound rfl
  · exact searches ((Config.ofDirectory .linux []).withCompiler _) rfl "demo" base

end Rehearsal

end ExampleBuild
