import ExampleBuild.Proofs.Build.Confinement
import ExampleBuild.Proofs.Entry.Listing
import ExampleBuild.Proofs.Path.Names

namespace ExampleBuild

/-! An artifact should stand in the directory of its source, at a name that no example has.
It is named by what stands before the suffix of the source, whatever that is, so two names
lead elsewhere and a suffix that comes twice leads to another example. -/

/-- What a directory lists: names of files, but not those of the directory itself and of
the one above it. -/
structure IsItemName (name : ByteText) : Prop where
  fileName : IsFileName name
  noNul : 0 ∉ name
  notHere : name ≠ utf8 "."
  notAbove : name ≠ utf8 ".."

theorem isItemName_iff {name : ByteText} :
    IsItemName name ↔ IsFileName name ∧ 0 ∉ name ∧ name ≠ utf8 "." ∧ name ≠ utf8 ".." :=
  ⟨fun isItem => ⟨isItem.fileName, isItem.noNul, isItem.notHere, isItem.notAbove⟩,
    fun ⟨fileName, noNul, notHere, notAbove⟩ => ⟨fileName, noNul, notHere, notAbove⟩⟩

instance (name : ByteText) : Decidable (IsItemName name) := decidable_of_iff _ isItemName_iff.symm

theorem IsItemName.isName {name : ByteText} (isItem : IsItemName name) : Path.IsName name :=
  ⟨isItem.fileName.1, isItem.notHere, isItem.fileName.2⟩

/-! ## Names of artifacts -/

namespace Platform

theorem executableSuffix_of_windows {platform : Platform}
    (windows : platform.isWindowsFamily = true) : platform.executableSuffix = ".exe" :=
  if_pos windows

theorem executableSuffix_of_not_windows {platform : Platform}
    (notWindows : platform.isWindowsFamily = false) : platform.executableSuffix = "" := by
  rw [executableSuffix, notWindows]
  rfl

end Platform

namespace Treatment

def straySources : List String := ["..cx", "...cx"]

variable {platform : Platform} {source artifact : String}

theorem noNul_artifact (named : artifactName? platform source = some artifact)
    (noNul : 0 ∉ utf8 source) : 0 ∉ utf8 artifact := by
  rcases artifactName?_eq_some_iff.mp named with ⟨stem, -, rfl, rfl⟩
  have inSuffix : 0 ∉ utf8 platform.executableSuffix := by cases platform <;> decide
  rw [utf8_append, List.mem_append, not_or] at noNul ⊢
  exact ⟨noNul.1, inSuffix⟩

/-- Only a stem of dots can lead out of the directory, and on Windows not even that. -/
theorem isItemName_artifact_iff (named : artifactName? platform source = some artifact)
    (isItem : IsItemName (utf8 source)) :
    IsItemName (utf8 artifact) ↔
      platform.isWindowsFamily = true ∨ source ∉ straySources := by
  have fileName := isFileName_artifact named isItem.fileName
  have noNul := noNul_artifact named isItem.noNul
  have spelled (left right : String) : utf8 left ≠ utf8 right ↔ left ≠ right :=
    not_congr ⟨fun same => utf8_injective same, fun same => by rw [same]⟩
  rw [isItemName_iff, and_iff_right fileName, and_iff_right noNul, spelled, spelled]
  rcases artifactName?_eq_some_iff.mp named with ⟨stem, -, rfl, rfl⟩
  cases windows : platform.isWindowsFamily with
  | true =>
      rw [Platform.executableSuffix_of_windows windows]
      have long : 4 ≤ (stem ++ ".exe").length := by
        rw [String.length_append]
        exact Nat.le_add_left 4 stem.length
      have differs {short : String} (isShort : short.length < 4) : stem ++ ".exe" ≠ short := by
        intro same
        rw [same] at long
        exact absurd long (Nat.not_le.mpr isShort)
      exact iff_of_true ⟨differs (by decide), differs (by decide)⟩ (.inl rfl)
  | false =>
      rw [Platform.executableSuffix_of_not_windows windows, String.append_empty]
      have stray : straySources = ["." ++ sourceSuffix, ".." ++ sourceSuffix] := rfl
      simp [stray, String.append_left_inj]

/-- An artifact has the name of a source where the suffix of sources comes twice. Artifacts
on Windows have a suffix of their own. -/
theorem artifact_eq_source_iff (named : artifactName? platform source = some artifact)
    (stem : String) :
    artifact = stem ++ sourceSuffix ↔
      platform.isWindowsFamily = false ∧ source = stem ++ sourceSuffix ++ sourceSuffix := by
  rcases artifactName?_eq_some_iff.mp named with ⟨own, -, rfl, rfl⟩
  cases windows : platform.isWindowsFamily with
  | true =>
      rw [Platform.executableSuffix_of_windows windows]
      have differs : own ++ ".exe" ≠ stem ++ sourceSuffix := by
        intro same
        have lasts := congrArg (fun text => text.toList.getLast?) same
        simp [sourceSuffix] at lasts
      simp [differs]
  | false =>
      rw [Platform.executableSuffix_of_not_windows windows, String.append_empty,
        String.append_left_inj]
      exact (and_iff_right rfl).symm

end Treatment

/-! ## Names that clash -/

/-- Why not every artifact of a listing has a place of its own: the stem of a source leads out
of the directory, or one example is named as another one's artifact. -/
inductive Clash (platform : Platform) (names : List ListedName) : Prop
  | stray (notWindows : platform.isWindowsFamily = false) {listed : ListedName}
      (isListed : listed ∈ names) {source : String} (isStray : source ∈ Treatment.straySources)
      (named : listed.name = utf8 source)
  | taken {listed other : ListedName} (isListed : listed ∈ names) (otherIsListed : other ∈ names)
      (canBeBuilt : listed.CanBeBuilt platform) (otherCanBeBuilt : other.CanBeBuilt platform)
      {stem : String} (named : listed.name = utf8 (stem ++ Treatment.sourceSuffix))
      (otherNamed : other.name = utf8 (stem ++ platform.executableSuffix))

def Plan.HasPlaceFor (plan : Plan) (artifact : String) : Prop :=
  IsItemName (utf8 artifact) ∧ ∀ other ∈ buildableIn plan.entries, other.name ≠ artifact

instance (plan : Plan) (artifact : String) : Decidable (plan.HasPlaceFor artifact) :=
  inferInstanceAs (Decidable (_ ∧ _))

section

variable {platform : Platform} {names : List ListedName} {artifact : String}

theorem mem_buildableIn_ofListing {entry : Entry} :
    entry ∈ buildableIn (Plan.ofListing platform names).entries ↔
      ∃ listed ∈ names, listed.CanBeBuilt platform ∧ entry = .ofListed platform listed := by
  rw [buildableIn, List.mem_filter, Plan.ofListing, List.mem_map]
  constructor
  · rintro ⟨⟨listed, isListed, rfl⟩, buildable⟩
    exact ⟨listed, isListed,
      (Entry.ofListed_standsFor platform listed).isBuildable_iff.mp buildable, rfl⟩
  · rintro ⟨listed, isListed, canBeBuilt, rfl⟩
    exact ⟨⟨listed, isListed, rfl⟩,
      (Entry.ofListed_standsFor platform listed).isBuildable_iff.mpr canBeBuilt⟩

theorem mem_artifactsOf_ofListing :
    artifact ∈ artifactsOf (Plan.ofListing platform names).entries ↔
      ∃ listed ∈ names, (Entry.ofListed platform listed).artifact? = some artifact := by
  rw [artifactsOf, Plan.ofListing, List.filterMap_map, List.mem_filterMap]
  rfl

theorem Entry.name_ofListed {listed : ListedName} (canBeBuilt : listed.CanBeBuilt platform) :
    utf8 (ofListed platform listed).name = listed.name :=
  have standsFor := ofListed_standsFor platform listed
  standsFor.name (standsFor.isBuildable_iff.mpr canBeBuilt)

theorem Entry.artifact?_ofListed {listed : ListedName} (canBeBuilt : listed.CanBeBuilt platform)
    {stem : String} (named : listed.name = utf8 (stem ++ Treatment.sourceSuffix)) :
    (ofListed platform listed).artifact? = some (stem ++ platform.executableSuffix) := by
  rcases (ListedName.canBeBuilt_iff named.symm).mp canBeBuilt with ⟨included, isExample⟩
  have artifact := Treatment.artifactName?_stem platform (NamesExample.source_iff.mp isExample)
  have isSource := Treatment.isSourceName_iff.mpr ⟨stem, rfl⟩
  have decoded : listed.name.decode? = some (stem ++ Treatment.sourceSuffix) := by
    rw [named, ByteText.decode?_utf8]
  rw [artifact?_eq_some_iff, ofListed, decoded]
  simp only [Treatment.ofName]
  rw [if_neg (by simpa using included), if_pos isSource, artifact]

theorem Entry.artifact?_ofListed_stray (notWindows : platform.isWindowsFamily = false)
    {listed : ListedName} {source : String} (isStray : source ∈ Treatment.straySources)
    (named : listed.name = utf8 source) :
    ∃ stem ∈ [".", ".."], (ofListed platform listed).artifact? = some stem := by
  have stems : Treatment.straySources = [".", ".."].map (· ++ Treatment.sourceSuffix) := rfl
  rw [stems] at isStray
  rcases List.mem_map.mp isStray with ⟨stem, isStem, rfl⟩
  have nonempty : stem ≠ "" := by
    rintro rfl
    exact absurd isStem (by decide)
  have canBeBuilt : listed.CanBeBuilt platform :=
    ⟨_, named.symm, fun windows => by simp [windows] at notWindows, .source nonempty⟩
  refine ⟨stem, isStem, ?_⟩
  rw [artifact?_ofListed canBeBuilt named, Platform.executableSuffix_of_not_windows notWindows,
    String.append_empty]

theorem artifacts_havePlace_iff (areItems : ∀ listed ∈ names, IsItemName listed.name) :
    (∀ artifact ∈ artifactsOf (Plan.ofListing platform names).entries,
      (Plan.ofListing platform names).HasPlaceFor artifact) ↔ ¬ Clash platform names := by
  constructor
  · intro havePlace clash
    cases clash with
    | stray notWindows isListed isStray named =>
        rcases Entry.artifact?_ofListed_stray notWindows isStray named with
          ⟨stem, isStem, compiles⟩
        have stands := (havePlace stem (mem_artifactsOf_ofListing.mpr ⟨_, isListed, compiles⟩)).1
        rcases List.mem_pair.mp isStem with rfl | rfl
        · exact stands.notHere rfl
        · exact stands.notAbove rfl
    | taken isListed otherIsListed canBeBuilt otherCanBeBuilt named otherNamed =>
        have compiles := Entry.artifact?_ofListed canBeBuilt named
        have place := havePlace _ (mem_artifactsOf_ofListing.mpr ⟨_, isListed, compiles⟩)
        have otherName := (Entry.name_ofListed otherCanBeBuilt).trans otherNamed
        exact place.2 _ (mem_buildableIn_ofListing.mpr ⟨_, otherIsListed, otherCanBeBuilt, rfl⟩)
          (utf8_injective otherName)
  · -- An artifact that is in the way of something is a clash of its source.
    intro noClash artifact compiled
    rcases mem_artifactsOf_ofListing.mp compiled with ⟨listed, isListed, compiles⟩
    rcases Entry.ofListed_compile compiles with ⟨sameName, named⟩
    have isItem : IsItemName (utf8 (Entry.ofListed platform listed).name) :=
      sameName ▸ areItems listed isListed
    constructor
    · rw [Treatment.isItemName_artifact_iff named isItem, or_iff_not_imp_left]
      intro notWindows isStray
      exact noClash (.stray (by simpa using notWindows) isListed isStray sameName.symm)
    · intro entry buildable taken
      rcases mem_buildableIn_ofListing.mp buildable with ⟨other, otherIsListed, canBeBuilt, rfl⟩
      have listedCanBeBuilt : listed.CanBeBuilt platform := by
        rw [← (Entry.ofListed_standsFor platform listed).isBuildable_iff,
          Entry.artifact?_eq_some_iff.mp compiles]
        rfl
      rcases Treatment.artifactName?_eq_some_iff.mp named with ⟨stem, -, source, rfl⟩
      have listedName : listed.name = utf8 (stem ++ Treatment.sourceSuffix) := by
        rw [← sameName, source]
      have otherName : other.name = utf8 (stem ++ platform.executableSuffix) := by
        rw [← Entry.name_ofListed canBeBuilt, taken]
      exact noClash
        (.taken isListed otherIsListed listedCanBeBuilt canBeBuilt listedName otherName)

end

/-! ## What a run removes -/

theorem Plan.exists_artifact_of_unlinked {σ : Type} {machine : Machine σ} {config : Config}
    {plan : Plan} {state : σ} {path : Path} {result : Except SystemError Unit}
    (unlinked : .unlinked path result ∈ (plan.build machine config state).actions) :
    ∃ artifact ∈ artifactsOf plan.entries, path = config.directory.join (utf8 artifact) := by
  rw [Plan.build, mem_buildEntries_iff rfl] at unlinked
  rcases unlinked with ⟨visit, visited, action⟩
  rcases Visit.unlinked_mem_iff.mp action with ⟨artifact, compiles, rfl, -⟩
  exact ⟨artifact, mem_artifactsOf (mem_visits_entries visited) compiles, rfl⟩

/-- An artifact is always the name of a file. It stands in the directory unless its source is
a stray one, and no source is there unless its name with one more suffix is a source too.
Neither those nor projects are in the way of any artifact exactly if no names clash, and all
that a run removes are the paths of artifacts. -/
theorem discover_artifacts_havePlace_iff {σ : Type} {machine : Machine σ} {config : Config}
    {state : σ} {names : List ListedName}
    (listed : machine.list state config.directory = .ok (names.map .ok))
    (areItems : ∀ listed ∈ names, IsItemName listed.name) :
    ∃ plan, (discover machine config.directory config.platform state).result = .ok plan ∧
      (∀ entry ∈ plan.entries, ∀ artifact, entry.artifact? = some artifact →
        IsFileName (utf8 artifact) ∧
        (IsItemName (utf8 artifact) ↔
          config.platform.isWindowsFamily = true ∨ entry.name ∉ Treatment.straySources) ∧
        ∀ source ∈ plan.entries, source.artifact? ≠ none →
          (artifact = source.name ↔ config.platform.isWindowsFamily = false ∧
            entry.name = source.name ++ Treatment.sourceSuffix)) ∧
      ((∀ artifact ∈ artifactsOf plan.entries, plan.HasPlaceFor artifact) ↔
        ¬ Clash config.platform names) ∧
      ∀ before path result, .unlinked path result ∈ (plan.build machine config before).actions →
        ∃ artifact ∈ artifactsOf plan.entries, path = config.directory.join (utf8 artifact) ∧
          (IsItemName (utf8 artifact) →
            path.components = config.directory.components ++ [.named (utf8 artifact)]) := by
  have discovered : (discover machine config.directory config.platform state).result =
      .ok (.ofListing config.platform names) := by
    rw [(discover_eq machine config.directory config.platform state).2, listed]
    simp [readNames_map_ok]
  refine ⟨_, discovered, ?_, artifacts_havePlace_iff areItems, ?_⟩
  · intro entry member artifact compiles
    rcases List.mem_map.mp member with ⟨listed, isListed, rfl⟩
    rcases Entry.ofListed_compile compiles with ⟨sameName, named⟩
    have isItem : IsItemName (utf8 (Entry.ofListed config.platform listed).name) :=
      sameName ▸ areItems listed isListed
    refine ⟨Treatment.isFileName_artifact named isItem.fileName,
      Treatment.isItemName_artifact_iff named isItem, fun source sourceMember isSource => ?_⟩
    rcases List.mem_map.mp sourceMember with ⟨other, -, rfl⟩
    rcases Option.ne_none_iff_exists'.mp isSource with ⟨otherArtifact, otherCompiles⟩
    rcases Treatment.artifactName?_eq_some_iff.mp (Entry.ofListed_compile otherCompiles).2 with
      ⟨stem, -, sourceName, -⟩
    rw [sourceName]
    exact Treatment.artifact_eq_source_iff named stem
  · intro before path result unlinked
    rcases Plan.exists_artifact_of_unlinked unlinked with ⟨artifact, compiled, rfl⟩
    exact ⟨artifact, compiled, rfl, fun isItem => Path.components_join _ isItem.isName⟩

/-! Names that do not clash, and sources that do: the artifact of one is another source, and
that of a third is the directory itself. -/

namespace Rehearsal

theorem mixedNames_havePlace :
    mixedMachine.list emptyState [] = .ok (mixedNames.map .ok) ∧
      (∀ listed ∈ mixedNames, IsItemName listed.name) ∧ ¬ Clash .windows mixedNames := by
  let config : Config := .ofDirectory .windows []
  have listed : mixedMachine.list emptyState config.directory = .ok (mixedNames.map .ok) := rfl
  have areItems : ∀ listed ∈ mixedNames, IsItemName listed.name := by decide +kernel
  rcases discover_artifacts_havePlace_iff listed areItems with
    ⟨plan, discovered, -, havePlace, -⟩
  have planned : (discover mixedMachine config.directory config.platform emptyState).result =
      .ok (.ofListing .windows mixedNames) := by decide +kernel
  cases discovered.symm.trans planned
  exact ⟨listed, areItems, havePlace.mp (by decide +kernel)⟩

def nestedSources : State :=
  ⟨⟨[([utf8 "a.cx.cx"], .file (.text (utf8 "invalid")) false),
    ([utf8 "a.cx"], .file (.text (utf8 "ok")) false),
    ([utf8 "..cx"], .file (.text (utf8 "ok")) false),
    ([utf8 "cx"], .file (.tool .compiler) true)]⟩, []⟩

def nestedSourcesPlan : Plan :=
  ⟨[⟨"a.cx.cx", .compile "a.cx"⟩, ⟨"a.cx", .compile "a"⟩, ⟨"..cx", .compile "."⟩,
    ⟨"cx", .ignored⟩]⟩

theorem nestedSources_lose_source :
    (∃ names : List ListedName,
      rootMachine.list nestedSources strayFileConfig.directory = .ok (names.map .ok) ∧
        ∀ listed ∈ names, IsItemName listed.name) ∧
    (discover rootMachine strayFileConfig.directory .linux nestedSources).result =
      .ok nestedSourcesPlan ∧
    ¬ nestedSourcesPlan.HasPlaceFor "a.cx" ∧ ¬ nestedSourcesPlan.HasPlaceFor "." ∧
    .unlinked (utf8 "/a.cx") (.ok ()) ∈
      (nestedSourcesPlan.build rootMachine strayFileConfig nestedSources).actions := by
  refine ⟨⟨[⟨utf8 "a.cx.cx", .ok false⟩, ⟨utf8 "a.cx", .ok false⟩, ⟨utf8 "..cx", .ok false⟩,
    ⟨utf8 "cx", .ok false⟩], rfl, by decide +kernel⟩, by decide +kernel, by decide +kernel,
    by decide +kernel, ?_⟩
  rw [Plan.build, mem_buildEntries_iff rfl]
  exact ⟨⟨⟨"a.cx.cx", .compile "a.cx"⟩, nestedSources⟩, List.mem_cons_self,
    Visit.unlinked_mem_iff.mpr ⟨"a.cx", rfl, rfl, rfl⟩⟩

end Rehearsal

end ExampleBuild
