import ExampleBuild.Proofs.Build.Accounting
import ExampleBuild.Proofs.Entry.Artifacts
import ExampleBuild.Rehearsal.Host
import Mathlib.Data.List.Forall2

namespace ExampleBuild

/-! Discovery looks at one listed name after the other. Which of them a build is planned
for can be told from the names alone, and the names of a listing all differ, so nothing is
planned twice. -/

/-! ## Names that can be built -/

/-- A name names an example by the suffix of sources, whatever it leads to, or else by
leading to a directory that is not the shared data. The suffix alone names nothing. -/
inductive NamesExample (isDirectory : Prop) : String → Prop
  | source {stem : String} (nonempty : stem ≠ "") :
      NamesExample isDirectory (stem ++ Treatment.sourceSuffix)
  | project {name : String} (noSource : ¬ ∃ stem, name = stem ++ Treatment.sourceSuffix)
      (directory : isDirectory) (notShared : name ≠ Treatment.sharedDataName) :
      NamesExample isDirectory name

/-- What can be built is text that names an example, and the platform does not exclude it.
A name that cannot be followed leads to no directory. -/
def ListedName.CanBeBuilt (platform : Platform) (listed : ListedName) : Prop :=
  ∃ name, utf8 name = listed.name ∧
    (platform.isWindowsFamily = true → name ∉ Treatment.excludedOnWindows) ∧
    NamesExample (listed.isDirectory = .ok true) name

namespace NamesExample

theorem source_iff {isDirectory : Prop} {stem : String} :
    NamesExample isDirectory (stem ++ Treatment.sourceSuffix) ↔ stem ≠ "" := by
  constructor
  · intro names
    generalize written : stem ++ Treatment.sourceSuffix = name at names
    cases names with
    | source nonempty => rwa [(String.append_left_inj _).mp written]
    | project noSource => exact absurd ⟨stem, written.symm⟩ noSource
  · exact .source

theorem of_noSource_iff {isDirectory : Prop} {name : String}
    (noSource : ¬ ∃ stem, name = stem ++ Treatment.sourceSuffix) :
    NamesExample isDirectory name ↔ isDirectory ∧ name ≠ Treatment.sharedDataName := by
  constructor
  · intro names
    cases names with
    | source => exact absurd ⟨_, rfl⟩ noSource
    | project _ directory notShared => exact ⟨directory, notShared⟩
  · rintro ⟨directory, notShared⟩
    exact .project noSource directory notShared

end NamesExample

namespace Treatment

theorem isBuildable_ofName_iff {platform : Platform} {name : String} {isDirectory : Bool} :
    (ofName platform name isDirectory).isBuildable = true ↔
      (platform.isWindowsFamily = true → name ∉ excludedOnWindows) ∧
        NamesExample (isDirectory = true) name := by
  by_cases excluded : platform.isWindowsFamily = true ∧ name ∈ excludedOnWindows
  · simp [ofName, excluded, isBuildable]
  have included : platform.isWindowsFamily = true → name ∉ excludedOnWindows :=
    not_and.mp excluded
  rw [ofName, if_neg (by simpa using included), and_iff_right included]
  by_cases source : ∃ stem, name = stem ++ sourceSuffix
  · rcases source with ⟨stem, rfl⟩
    rw [if_pos (isSourceName_iff.mpr ⟨stem, rfl⟩), NamesExample.source_iff]
    by_cases nonempty : stem = ""
    · subst nonempty
      simp [artifactName?, isBuildable]
    · simp [artifactName?_stem platform nonempty, nonempty, isBuildable]
  · rw [if_neg (isSourceName_iff.not.mpr source), NamesExample.of_noSource_iff source]
    split
    · next project => simpa [isBuildable] using project
    · next other => simpa [isBuildable] using other

theorem artifactName?_ne_source {platform : Platform} {source artifact : String}
    (named : artifactName? platform source = some artifact) : artifact ≠ source := by
  rcases artifactName?_eq_some_iff.mp named with ⟨stem, -, rfl, rfl⟩
  intro same
  have suffixes : platform.executableSuffix = sourceSuffix := (String.append_right_inj _).mp same
  cases platform <;> exact absurd suffixes (by decide)

end Treatment

namespace ListedName

theorem canBeBuilt_iff {platform : Platform} {listed : ListedName} {name : String}
    (spelled : utf8 name = listed.name) :
    listed.CanBeBuilt platform ↔
      (platform.isWindowsFamily = true → name ∉ Treatment.excludedOnWindows) ∧
        NamesExample (listed.isDirectory = .ok true) name := by
  constructor
  · rintro ⟨other, spelledOther, canBeBuilt⟩
    rwa [utf8_injective (spelled.trans spelledOther.symm)]
  · intro canBeBuilt
    exact ⟨name, spelled, canBeBuilt⟩

end ListedName

/-! ## The entry for a listed name -/

namespace Entry

/-- How an entry stands for the name that was listed. It shows every name, and is to be
built by exactly that name if it can be. -/
structure StandsFor (platform : Platform) (listed : ListedName) (entry : Entry) : Prop where
  shown : entry.name = listed.name.shown
  isBuildable_iff : entry.treatment.isBuildable = true ↔ listed.CanBeBuilt platform
  name : entry.treatment.isBuildable = true → utf8 entry.name = listed.name

theorem ofListed_standsFor (platform : Platform) (listed : ListedName) :
    (ofListed platform listed).StandsFor platform listed := by
  cases decoded : listed.name.decode? with
  | none =>
      have ignored : (ofListed platform listed).treatment.isBuildable = false := by
        simp [ofListed, decoded, Treatment.isBuildable]
      have noText (name : String) : utf8 name ≠ listed.name := by
        simp [← ByteText.decode?_eq_some_iff, decoded]
      refine ⟨?_, ?_, ?_⟩
      · simp [ofListed, decoded]
      · simp [ignored, ListedName.CanBeBuilt, noText]
      · simp [ignored]
  | some name =>
      have spelled : utf8 name = listed.name := ByteText.utf8_eq_of_decode? decoded
      refine ⟨?_, ?_, fun _ => ?_⟩
      · simp [ofListed, ← spelled, ByteText.decode?_utf8, ByteText.shown_utf8]
      · rw [ListedName.canBeBuilt_iff spelled, ofListed, decoded]
        cases listed.isDirectory <;> simp [Treatment.isBuildable_ofName_iff]
      · simpa [ofListed, decoded] using spelled

end Entry

instance (platform : Platform) (listed : ListedName) : Decidable (listed.CanBeBuilt platform) :=
  decidable_of_iff _ (Entry.ofListed_standsFor platform listed).isBuildable_iff

/-! ## The plan for a listing -/

namespace Plan

theorem standsFor_ofListing (platform : Platform) (names : List ListedName) :
    List.Forall₂ (Entry.StandsFor platform) names (ofListing platform names).entries :=
  List.forall₂_map_right_iff.mpr
    (List.forall₂_same.mpr fun listed _ => Entry.ofListed_standsFor platform listed)

theorem buildCount_ofListing (platform : Platform) (names : List ListedName) :
    (ofListing platform names).buildCount =
      names.countP fun listed => listed.CanBeBuilt platform := by
  rw [buildCount, ofListing, List.countP_map]
  apply List.countP_congr
  intro listed _
  simpa using (Entry.ofListed_standsFor platform listed).isBuildable_iff

theorem buildable_names_nodup (platform : Platform) {names : List ListedName}
    (listing : IsListing names) :
    ((buildableIn (ofListing platform names).entries).map Entry.name).Nodup := by
  apply List.Nodup.of_map utf8
  have kept : ((buildableIn (ofListing platform names).entries).map Entry.name).map utf8 =
      (names.filter fun listed =>
        (Entry.ofListed platform listed).treatment.isBuildable).map ListedName.name := by
    rw [buildableIn, ofListing, List.filter_map, List.map_map, List.map_map]
    apply List.map_congr_left
    intro listed member
    exact (Entry.ofListed_standsFor platform listed).name (List.mem_filter.mp member).2
  rw [kept]
  exact (List.filter_sublist.map ListedName.name).nodup listing.distinct

theorem artifact_ne_name (platform : Platform) (names : List ListedName) :
    ∀ entry ∈ (ofListing platform names).entries, entry.artifact? ≠ some entry.name := by
  intro entry member compiled
  rcases List.mem_map.mp member with ⟨listed, -, rfl⟩
  exact Treatment.artifactName?_ne_source (Entry.ofListed_compile compiled).2 rfl

end Plan

/-! ## Discovery of a listing -/

theorem readNames_map_ok (names : List ListedName) :
    readNames (names.map .ok) = (names, none) := by
  induction names with
  | nil => rfl
  | cons listed rest induction => simp [readNames, induction]

/-- A directory that can be listed is discovered, name after name. No name is built twice, no
two sources compile to one file, and none compiles to itself. -/
theorem discover_of_listing {σ : Type} {machine : Machine σ} {directory : Path} {state : σ}
    {names : List ListedName} (platform : Platform)
    (listed : machine.list state directory = .ok (names.map .ok)) (listing : IsListing names) :
    ∃ plan, (discover machine directory platform state).result = .ok plan ∧
      List.Forall₂ (Entry.StandsFor platform) names plan.entries ∧
      ((buildableIn plan.entries).map Entry.name).Nodup ∧
      (artifactsOf plan.entries).Nodup ∧
      (∀ entry ∈ plan.entries, entry.artifact? ≠ some entry.name) ∧
      plan.buildCount = names.countP fun listed => listed.CanBeBuilt platform := by
  refine ⟨.ofListing platform names, ?_, Plan.standsFor_ofListing platform names,
    Plan.buildable_names_nodup platform listing, Plan.artifacts_ofListing_nodup platform listing,
    Plan.artifact_ne_name platform names, Plan.buildCount_ofListing platform names⟩
  rw [(discover_eq machine directory platform state).2, listed]
  simp [readNames_map_ok]

/-! A directory in which only three of the names can be built: one source that is a
directory, one that is not, and one project. -/

namespace Rehearsal

def mixedNames : List ListedName :=
  [⟨utf8 "hello.cx", .ok false⟩, ⟨utf8 "odd.cx", .ok true⟩, ⟨utf8 "demo", .ok true⟩,
   ⟨utf8 ".cx", .ok true⟩, ⟨utf8 "inputs", .ok true⟩, ⟨utf8 "gone", .error .notFound⟩,
   ⟨utf8 "opengl", .ok true⟩, ⟨[0xFF], .ok true⟩]

def mixedMachine : Machine State :=
  { machine ⟨.empty, []⟩ with list := fun _ _ => .ok (mixedNames.map .ok) }

theorem mixedNames_discovered :
    IsListing mixedNames ∧ ∃ plan,
      (discover mixedMachine [] .windows emptyState).result = .ok plan ∧
      List.Forall₂ (Entry.StandsFor .windows) mixedNames plan.entries ∧
      (buildableIn plan.entries).map Entry.name = ["hello.cx", "odd.cx", "demo"] ∧
      artifactsOf plan.entries = ["hello.exe", "odd.exe"] ∧
      (∀ entry ∈ plan.entries, entry.artifact? ≠ some entry.name) ∧
      mixedNames.countP (fun listed => listed.CanBeBuilt .windows) = 3 := by
  have listing : IsListing mixedNames := ⟨by decide +kernel, by decide +kernel⟩
  have planned : (discover mixedMachine [] .windows emptyState).result =
      .ok ⟨[⟨"hello.cx", .compile "hello.exe"⟩, ⟨"odd.cx", .compile "odd.exe"⟩,
        ⟨"demo", .make⟩, ⟨".cx", .ignored⟩, ⟨"inputs", .ignored⟩, ⟨"gone", .ignored⟩,
        ⟨"opengl", .excluded⟩, ⟨"\uFFFD", .ignored⟩]⟩ := by decide +kernel
  have listed : mixedMachine.list emptyState [] = .ok (mixedNames.map .ok) := rfl
  rcases discover_of_listing .windows listed listing with
    ⟨plan, discovered, standsFor, -, -, notItself, counted⟩
  cases discovered.symm.trans planned
  exact ⟨listing, _, discovered, standsFor, rfl, rfl, notItself, counted.symm⟩

end Rehearsal

end ExampleBuild
