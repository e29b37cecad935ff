import ExampleBuild.Proofs.Entry.Commands
import Mathlib.Data.List.Forall2

namespace ExampleBuild

/-! A project is made in the environment of the run, with the directory of the compiler in
front of the search path. Everything else stays, down to the bytes of the search path that
was there. -/

/-! ## Names and values -/

namespace Environment

theorem mem_names_iff {environment : Environment} {name : ByteText} :
    name ∈ environment.names ↔ environment.get? name ≠ none := by
  rw [names, get?]
  induction environment.entries with
  | nil => simp [valueIn]
  | cons entry rest induction =>
      rw [List.map_cons, List.mem_cons, induction, valueIn]
      by_cases same : entry.1 = name
      · simp [same]
      · simp [same, Ne.symm same]

theorem get?_foldl_insert (pairs : List (ByteText × ByteText)) (environment : Environment)
    (name : ByteText) :
    (pairs.foldl (fun environment pair => environment.insert pair.1 pair.2) environment).get?
        name =
      ((pairs.reverse.find? fun pair => pair.1 = name).map Prod.snd).or
        (environment.get? name) := by
  induction pairs generalizing environment with
  | nil => rfl
  | cons pair rest induction =>
      rw [List.foldl_cons, induction, get?_insert, List.reverse_cons, List.find?_append]
      cases rest.reverse.find? fun pair => pair.1 = name with
      | some later => rfl
      | none => by_cases same : pair.1 = name <;> simp [same]

theorem get?_ofPairs (pairs : List (ByteText × ByteText)) (name : ByteText) :
    (ofPairs pairs).get? name =
      (pairs.reverse.find? fun pair => pair.1 = name).map Prod.snd := by
  rw [ofPairs, get?_foldl_insert, get?_empty, Option.or_none]

theorem find?_names_least {environment : Environment} {isWanted : ByteText → Bool}
    {name other : ByteText} (found : environment.names.find? isWanted = some name)
    (there : environment.get? other ≠ none) (wanted : isWanted other = true) :
    other = name ∨ name < other := by
  have sorted : environment.names.Pairwise (· < ·) := by
    rw [names, List.pairwise_map]
    exact environment.sorted.imp ByteText.precedes_iff_lt.mp
  rcases List.find?_eq_some_iff_append.mp found with ⟨_, before, after, split, unwanted⟩
  have member := mem_names_iff.mpr there
  rw [split] at sorted member
  rcases List.mem_append.mp member with earlier | fromHere
  · have notWanted := unwanted other earlier
    simp [wanted] at notWanted
  · rcases List.mem_cons.mp fromHere with same | later
    · exact .inl same
    · have tail := (List.pairwise_append.mp sorted).2.1
      exact .inr ((List.pairwise_cons.mp tail).1 other later)

end Environment

/-! ## The name of the search path -/

/-- A name that spells the one of the search path in letters of either case. The byte of a
small letter comes 32 after that of its capital. -/
def SpellsSearchPath (name : ByteText) : Prop :=
  List.Forall₂ (fun byte capital => byte = capital ∨ byte = capital + 32) name
    (utf8 searchPathName)

theorem isSmall_of_isCapital {capital : UInt8} (isCapital : 65 ≤ capital ∧ capital ≤ 90) :
    97 ≤ capital + 32 ∧ capital + 32 ≤ 122 := by
  simp only [UInt8.le_iff_toNat_le, UInt8.toNat_add, UInt8.reduceToNat] at isCapital ⊢
  omega

theorem upperCaseByte_eq_iff {byte capital : UInt8} (isCapital : 65 ≤ capital ∧ capital ≤ 90) :
    upperCaseByte byte = capital ↔ byte = capital ∨ byte = capital + 32 := by
  rw [upperCaseByte]
  by_cases isSmall : 97 ≤ byte ∧ byte ≤ 122
  · rw [if_pos (by simpa using isSmall)]
    constructor
    · intro same
      exact .inr (by rw [← same, UInt8.sub_add_cancel])
    · rintro (same | same)
      · have impossible := UInt8.le_trans (same ▸ isSmall.1) isCapital.2
        exact absurd impossible (by decide)
      · rw [same, UInt8.add_sub_cancel]
  · rw [if_neg (by simpa using isSmall)]
    constructor
    · exact .inl
    · rintro (same | same)
      · exact same
      · exact absurd (same ▸ isSmall_of_isCapital isCapital) isSmall

theorem map_upperCaseByte_eq_iff {name capitals : ByteText}
    (areCapitals : ∀ capital ∈ capitals, 65 ≤ capital ∧ capital ≤ 90) :
    name.map upperCaseByte = capitals ↔
      List.Forall₂ (fun byte capital => byte = capital ∨ byte = capital + 32) name capitals := by
  induction capitals generalizing name with
  | nil => simp
  | cons capital rest induction =>
      rw [List.forall_mem_cons] at areCapitals
      cases name with
      | nil => simp
      | cons byte bytes =>
          rw [List.map_cons, List.cons.injEq, List.forall₂_cons, induction areCapitals.2,
            upperCaseByte_eq_iff areCapitals.1]

theorem spellsSearchPath_iff {name : ByteText} :
    SpellsSearchPath name ↔ name.map upperCaseByte = utf8 searchPathName :=
  (map_upperCaseByte_eq_iff (by decide +kernel)).symm

/-- The name that holds the search path of an environment. On Windows it is the least of the
names that are there and spell it. -/
inductive HoldsSearchPath (platform : Platform) (base : Environment) : ByteText → Prop
  | elsewhere (notWindows : platform.isWindowsFamily = false) :
      HoldsSearchPath platform base (utf8 searchPathName)
  | missing (windows : platform.isWindowsFamily = true)
      (nowhere : ∀ name, SpellsSearchPath name → base.get? name = none) :
      HoldsSearchPath platform base (utf8 searchPathName)
  | least (windows : platform.isWindowsFamily = true) {name : ByteText}
      (spells : SpellsSearchPath name) (there : base.get? name ≠ none)
      (first : ∀ other, SpellsSearchPath other → base.get? other ≠ none →
        other = name ∨ name < other) :
      HoldsSearchPath platform base name

theorem searchPathNameIn_holds (platform : Platform) (base : Environment) :
    HoldsSearchPath platform base (searchPathNameIn platform base) := by
  rw [searchPathNameIn]
  split
  · next windows =>
      cases found : base.names.find? fun name =>
          name.map upperCaseByte = utf8 searchPathName with
      | none =>
          refine .missing windows fun name spells => ?_
          by_contra there
          have unspelled := List.find?_eq_none.mp found name (Environment.mem_names_iff.mpr there)
          exact unspelled (by simpa using spellsSearchPath_iff.mp spells)
      | some name =>
          have spelled : name.map upperCaseByte = utf8 searchPathName := by
            simpa using List.find?_some found
          refine .least windows (spellsSearchPath_iff.mpr spelled)
            (Environment.mem_names_iff.mp (List.mem_of_find?_eq_some found))
            fun other spells there => ?_
          exact Environment.find?_names_least found there
            (by simpa using spellsSearchPath_iff.mp spells)
  · next notWindows => exact .elsewhere (by simpa using notWindows)

/-! ## A directory in front -/

namespace SearchPath

/-- What a search path becomes when a directory is put in front of it. Where there was none,
or an empty one, there is only the directory. -/
def withFirst (directory : Path) : Option ByteText → ByteText
  | none | some [] => directory
  | some value => directory ++ colon :: value

variable {directory : Path}

theorem ofDirectories?_eq_some {directories : List Path}
    (writable : ∀ directory ∈ directories, colon ∉ directory) :
    ofDirectories? directories = some ([colon].intercalate directories) := by
  have noneHasColon : (directories.any fun directory => directory.contains colon) = false := by
    simpa using writable
  rw [ofDirectories?, noneHasColon, ByteText.joined_eq_intercalate]
  rfl

theorem ofDirectories?_listed (writable : colon ∉ directory) (value : Option ByteText) :
    ofDirectories? (directory :: listed value) = some (withFirst directory value) := by
  rw [ofDirectories?_eq_some
    (List.forall_mem_cons.mpr ⟨writable, fun _ => not_mem_of_mem_listed⟩)]
  match value with
  | none | some [] => simp [listed, withFirst]
  | some (byte :: rest) =>
      have segments : listed (some (byte :: rest)) = (byte :: rest).splitOn colon :=
        ByteText.separated_eq_splitOn colon (byte :: rest)
      rw [segments, List.intercalate_cons_of_ne_nil (List.splitOn_ne_nil colon (byte :: rest)),
        List.intercalate_splitOn]
      simp [withFirst]

end SearchPath

theorem projectEnvironment_eq_ok {compiler : String} {directory : Path}
    (found : compilerDirectory? compiler = some directory)
    (writable : SearchPath.colon ∉ directory) (platform : Platform) (base : Environment) :
    let name := searchPathNameIn platform base
    projectEnvironment compiler platform base =
      .ok (base.insert name (SearchPath.withFirst directory (base.get? name))) := by
  intro name
  rw [projectEnvironment_of_directory found, SearchPath.ofDirectories?_listed writable]
  rfl

/-- An environment that differs from another one in its search path alone, where a directory
was put in front of what there was. -/
structure PutsFirst (directory : Path) (name : ByteText) (base environment : Environment) :
    Prop where
  others : ∀ other, other ≠ name → environment.get? other = base.get? other
  alone : base.get? name = none ∨ base.get? name = some [] →
    environment.get? name = some directory ∧ directory.splitOn SearchPath.colon = [directory]
  /-- The old value follows a colon as it was, so its segments follow the directory. -/
  before : ∀ value, base.get? name = some value → value ≠ [] →
    environment.get? name = some (directory ++ SearchPath.colon :: value) ∧
    (directory ++ SearchPath.colon :: value).splitOn SearchPath.colon =
      directory :: value.splitOn SearchPath.colon

theorem putsFirst_insert {directory : Path} (writable : SearchPath.colon ∉ directory)
    (name : ByteText) (base : Environment) :
    PutsFirst directory name base
      (base.insert name (SearchPath.withFirst directory (base.get? name))) where
  others other different := by
    rw [Environment.get?_insert, if_neg fun same => different same.symm]
  alone empty := by
    rw [Environment.get?_insert, if_pos rfl]
    refine ⟨?_, List.splitOn_eq_singleton writable⟩
    rcases empty with missing | empty
    · rw [missing, SearchPath.withFirst]
    · rw [empty, SearchPath.withFirst]
  before value there nonempty := by
    rw [Environment.get?_insert, if_pos rfl, there]
    cases value with
    | nil => exact absurd rfl nonempty
    | cons byte rest =>
        exact ⟨rfl, List.splitOn_append_cons_self_of_not_mem writable (byte :: rest)⟩

theorem HoldsSearchPath.there {platform : Platform} {base : Environment} {name spelled : ByteText}
    (holds : HoldsSearchPath platform base name) (windows : platform.isWindowsFamily = true)
    (spells : SpellsSearchPath spelled) (present : base.get? spelled ≠ none) :
    base.get? name ≠ none := by
  cases holds with
  | elsewhere notWindows => simp [windows] at notWindows
  | missing _ nowhere => exact absurd (nowhere spelled spells) present
  | least _ _ there _ => exact there

/-! ## The environment of a project -/

/-- A compiler without a directory leaves the environment as it is, and one whose directory
holds a colon is refused. Any other directory is put in front of the search path. -/
theorem projectEnvironment_of_pairs (compiler : String) (platform : Platform)
    (pairs : List (ByteText × ByteText)) :
    let base := Environment.ofPairs pairs
    (∀ name, base.get? name =
      (pairs.reverse.find? fun pair => pair.1 = name).map Prod.snd) ∧
    (compilerDirectory? compiler = none →
      projectEnvironment compiler platform base = .ok base) ∧
    ∀ directory, compilerDirectory? compiler = some directory →
      (SearchPath.colon ∈ directory →
        projectEnvironment compiler platform base = .error (.unwritableSearchPath directory)) ∧
      (SearchPath.colon ∉ directory → ∃ name environment,
        projectEnvironment compiler platform base = .ok environment ∧
        HoldsSearchPath platform base name ∧ PutsFirst directory name base environment ∧
        (platform.isWindowsFamily = true → ∀ spelled, SpellsSearchPath spelled →
          base.get? spelled ≠ none →
            ∀ other, environment.get? other ≠ none → base.get? other ≠ none)) := by
  intro base
  refine ⟨Environment.get?_ofPairs pairs, fun bare => ?_, fun directory found => ⟨?_, ?_⟩⟩
  · rw [projectEnvironment, bare]
  · intro colon
    apply projectEnvironment_eq_error_iff.mpr
    exact ⟨directory, by simp [unwritableDirectory?, found, colon], rfl⟩
  · intro writable
    have holds := searchPathNameIn_holds platform base
    have first := putsFirst_insert writable (searchPathNameIn platform base) base
    refine ⟨_, _, projectEnvironment_eq_ok found writable platform base, holds, first, ?_⟩
    intro windows spelled spells present other after
    by_cases same : other = searchPathNameIn platform base
    · rw [same]
      exact holds.there windows spells present
    · rwa [← first.others other same]

/-! Two spellings of the search path, of which the least one counts. Its value starts and ends
with a colon, has an empty segment and is not UTF-8, and an earlier one is overridden. -/

def mixedSpellings : List (ByteText × ByteText) :=
  [(utf8 "path", utf8 "/a"), (utf8 "Path", utf8 "/b"), (utf8 "HOME", utf8 "/home"),
   (utf8 "Path", utf8 ":/usr/bin::" ++ [0xFF, SearchPath.colon])]

theorem projectEnvironment_mixedSpellings :
    let base := Environment.ofPairs mixedSpellings
    let directory := utf8 "/opt/cx/bin"
    compilerDirectory? "cx" = none ∧
      projectEnvironment "cx" .windows base = .ok base ∧
      compilerDirectory? "/a:b/cx" = some (utf8 "/a:b") ∧
      projectEnvironment "/a:b/cx" .windows base =
        .error (.unwritableSearchPath (utf8 "/a:b")) ∧
      compilerDirectory? "/opt/cx/bin/cx" = some directory ∧
      SearchPath.colon ∉ directory ∧
      ∃ name environment,
        projectEnvironment "/opt/cx/bin/cx" .windows base = .ok environment ∧
        HoldsSearchPath .windows base name ∧ PutsFirst directory name base environment ∧
        environment.get? (utf8 "Path") =
          some (utf8 "/opt/cx/bin::/usr/bin::" ++ [0xFF, SearchPath.colon]) := by
  intro base directory
  have bare : compilerDirectory? "cx" = none := rfl
  have colonFound : compilerDirectory? "/a:b/cx" = some (utf8 "/a:b") := rfl
  have found : compilerDirectory? "/opt/cx/bin/cx" = some directory := rfl
  have writable : SearchPath.colon ∉ directory := by decide +kernel
  have colon := (projectEnvironment_of_pairs "/a:b/cx" .windows mixedSpellings).2.2 _ colonFound
  rcases ((projectEnvironment_of_pairs "/opt/cx/bin/cx" .windows mixedSpellings).2.2 _ found).2
    writable with ⟨name, environment, made, holds, first, _⟩
  have value : (projectEnvironment "/opt/cx/bin/cx" .windows base).map
      (fun environment => environment.get? (utf8 "Path")) =
        .ok (some (utf8 "/opt/cx/bin::/usr/bin::" ++ [0xFF, SearchPath.colon])) := rfl
  rw [made] at value
  exact ⟨bare, (projectEnvironment_of_pairs "cx" .windows mixedSpellings).2.1 bare, colonFound,
    colon.1 (by decide +kernel), found, writable, name, environment, made, holds, first,
    Except.ok.inj value⟩

end ExampleBuild
