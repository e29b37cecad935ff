import ExampleBuild.Discovery
import Mathlib.Data.List.Nodup

namespace ExampleBuild

/-! A source is named by a stem and the suffix of sources, and its artifact by the same
stem and the suffix of executable files. So an artifact tells its source, and what the
sources of one directory compile to never coincides. -/

/-- A name that stands in a directory: it is not empty, and no slash parts it. -/
def IsFileName (name : ByteText) : Prop := name ≠ [] ∧ Path.slash ∉ name

instance (name : ByteText) : Decidable (IsFileName name) :=
  inferInstanceAs (Decidable (name ≠ [] ∧ Path.slash ∉ name))

/-! ## Stems -/

namespace Treatment

theorem isSourceName_iff {name : String} :
    isSourceName name = true ↔ ∃ stem, name = stem ++ sourceSuffix := by
  rw [isSourceName, List.isSuffixOf_iff_suffix]
  constructor
  · intro ends
    rcases ends with ⟨stem, split⟩
    refine ⟨String.ofList stem, ?_⟩
    apply String.toList_inj.mp
    simpa using split.symm
  · intro ends
    rcases ends with ⟨stem, rfl⟩
    exact ⟨stem.toList, by simp⟩

theorem artifactName?_stem (platform : Platform) {stem : String} (nonempty : stem ≠ "") :
    artifactName? platform (stem ++ sourceSuffix) =
      some (stem ++ platform.executableSuffix) := by
  have isSource : isSourceName (stem ++ sourceSuffix) = true := isSourceName_iff.mpr ⟨stem, rfl⟩
  have characters : (stem.toList ++ sourceSuffix.toList).take stem.length = stem.toList := by
    rw [← String.length_toList]
    exact List.take_left
  simp [artifactName?, isSource, characters, nonempty, String.ofList_append]

theorem artifactName?_eq_some_iff {platform : Platform} {source artifact : String} :
    artifactName? platform source = some artifact ↔
      ∃ stem, stem ≠ "" ∧ source = stem ++ sourceSuffix ∧
        artifact = stem ++ platform.executableSuffix := by
  constructor
  · intro named
    have isSource : isSourceName source = true := by
      by_contra other
      simp [artifactName?, other] at named
    rcases isSourceName_iff.mp isSource with ⟨stem, rfl⟩
    have nonempty : stem ≠ "" := by
      intro same
      subst same
      simp [artifactName?] at named
    rw [artifactName?_stem platform nonempty] at named
    exact ⟨stem, nonempty, rfl, (Option.some.inj named).symm⟩
  · intro named
    rcases named with ⟨stem, nonempty, rfl, rfl⟩
    exact artifactName?_stem platform nonempty

example : artifactName? .windows "a.b.cx" = some "a.b.exe" := rfl

theorem artifactName?_injective {platform : Platform} {left right artifact : String}
    (ofLeft : artifactName? platform left = some artifact)
    (ofRight : artifactName? platform right = some artifact) : left = right := by
  rcases artifactName?_eq_some_iff.mp ofLeft with ⟨stem, -, rfl, rfl⟩
  rcases artifactName?_eq_some_iff.mp ofRight with ⟨other, -, rfl, same⟩
  rw [(String.append_left_inj _).mp same]

theorem artifactName?_of_compile {platform : Platform} {name artifact : String}
    {isDirectory : Bool} (treated : ofName platform name isDirectory = .compile artifact) :
    artifactName? platform name = some artifact := by
  unfold ofName at treated
  split at treated
  · cases treated
  · split at treated
    · cases named : artifactName? platform name with
      | none => simp [named] at treated
      | some found => simpa [named] using treated
    · split at treated <;> cases treated

theorem isFileName_artifact {platform : Platform} {source artifact : String}
    (named : artifactName? platform source = some artifact)
    (fileName : IsFileName (utf8 source)) : IsFileName (utf8 artifact) := by
  rcases artifactName?_eq_some_iff.mp named with ⟨stem, nonempty, rfl, rfl⟩
  have noSlash : Path.slash ∉ utf8 stem := by
    intro member
    exact fileName.2 (by simp [utf8_append, member])
  have noSlashAfter : Path.slash ∉ utf8 platform.executableSuffix := by
    cases platform <;> decide
  exact ⟨by simp [utf8_append, utf8_ne_nil nonempty], by simp [utf8_append, noSlash, noSlashAfter]⟩

end Treatment

/-! ## The artifacts of a plan -/

namespace Entry

def artifact? (entry : Entry) : Option String :=
  match entry.treatment with
  | .compile artifact => some artifact
  | .make | .excluded | .ignored => none

theorem artifact?_eq_some_iff {entry : Entry} {artifact : String} :
    entry.artifact? = some artifact ↔ entry.treatment = .compile artifact := by
  cases treated : entry.treatment <;> simp [artifact?, treated]

theorem ofListed_compile {platform : Platform} {listed : ListedName} {artifact : String}
    (compiled : (ofListed platform listed).artifact? = some artifact) :
    utf8 (ofListed platform listed).name = listed.name ∧
      Treatment.artifactName? platform (ofListed platform listed).name = some artifact := by
  rw [artifact?_eq_some_iff] at compiled
  unfold ofListed at compiled ⊢
  cases decoded : listed.name.decode? with
  | none => simp [decoded] at compiled
  | some name =>
      simp only [decoded] at compiled ⊢
      exact ⟨ByteText.utf8_eq_of_decode? decoded, Treatment.artifactName?_of_compile compiled⟩

end Entry

def artifactsOf (entries : List Entry) : List String := entries.filterMap Entry.artifact?

/-- A directory is listed by the names of files, each of them once. -/
structure IsListing (names : List ListedName) : Prop where
  fileNames : ∀ listed ∈ names, IsFileName listed.name
  distinct : (names.map ListedName.name).Nodup

namespace Plan

theorem artifacts_ofListing_nodup (platform : Platform) {names : List ListedName}
    (listing : IsListing names) :
    (artifactsOf (Plan.ofListing platform names).entries).Nodup := by
  have distinct := List.pairwise_map.mp listing.distinct
  rw [artifactsOf, ofListing, List.filterMap_map, List.Nodup, List.pairwise_filterMap]
  apply distinct.imp
  intro left right different artifact ofLeft other ofRight equal
  subst equal
  rcases Entry.ofListed_compile ofLeft with ⟨leftName, leftNamed⟩
  rcases Entry.ofListed_compile ofRight with ⟨rightName, rightNamed⟩
  have same := Treatment.artifactName?_injective leftNamed rightNamed
  exact different (by rw [← leftName, ← rightName, same])

theorem artifacts_ofListing_fileNames (platform : Platform) {names : List ListedName}
    (listing : IsListing names) {artifact : String}
    (member : artifact ∈ artifactsOf (Plan.ofListing platform names).entries) :
    IsFileName (utf8 artifact) := by
  rw [artifactsOf, ofListing, List.filterMap_map, List.mem_filterMap] at member
  rcases member with ⟨listed, isListed, compiled⟩
  rcases Entry.ofListed_compile compiled with ⟨name, named⟩
  exact Treatment.isFileName_artifact named (name ▸ listing.fileNames listed isListed)

end Plan

/-! ## Discovery -/

section

variable {σ : Type} (machine : Machine σ) (directory : Path) (platform : Platform)

/-- Discovery only reads, and what it yields is the plan of the names it read. -/
theorem discover_eq (state : σ) :
    (discover machine directory platform state).state = state ∧
      (discover machine directory platform state).result =
        match machine.list state directory with
        | .error cause => .error (.unlistableDirectory directory cause)
        | .ok listing =>
            match (readNames listing).2 with
            | some cause => .error (.unreadableEntry directory cause)
            | none => .ok (.ofListing platform (readNames listing).1) := by
  rw [discover, Activity.bind_apply]
  cases listed : machine.list state directory with
  | error cause => simp [listed]
  | ok listing =>
      cases failed : (readNames listing).2 <;>
        simp [listed, failed, Activity.inOrder_note]

/-- A plan is discovered when the names of a directory that stand in a state were listed
as files are, and the plan is theirs. -/
structure Discovers (state : σ) (plan : Plan) : Prop where
  discovered : (discover machine directory platform state).result = .ok plan
  listing : ∀ listing, machine.list state directory = .ok listing →
    IsListing (readNames listing).1

theorem Discovers.exists_listing {machine : Machine σ} {directory : Path}
    {platform : Platform} {state : σ} {plan : Plan}
    (discovers : Discovers machine directory platform state plan) :
    ∃ names, IsListing names ∧ plan = .ofListing platform names := by
  have discovered := discovers.discovered
  rw [(discover_eq machine directory platform state).2] at discovered
  cases listed : machine.list state directory with
  | error cause => simp [listed] at discovered
  | ok listing =>
      cases failed : (readNames listing).2 with
      | some cause => simp [listed, failed] at discovered
      | none =>
          refine ⟨(readNames listing).1, discovers.listing listing listed, ?_⟩
          simpa [listed, failed] using discovered.symm

end

end ExampleBuild
