import ExampleBuild.Command

namespace ExampleBuild

/-! The command of a source can always be written. That of a project needs a search path
with the directory of the compiler in it, and a colon in that directory is the one thing
that no search path can hold. -/

namespace SearchPath

def listed : Option ByteText → List Path
  | none | some [] => []
  | some value => directories value

theorem not_mem_of_mem_listed {value : Option ByteText} {directory : Path}
    (member : directory ∈ listed value) : colon ∉ directory := by
  match value, member with
  | some (byte :: rest), member => exact ByteText.not_mem_of_mem_separated member

/-- The directories that a search path already lists can be listed again, so only the one
that is put in front of them matters. -/
theorem ofDirectories?_eq_none_iff {directory : Path} {value : Option ByteText} :
    ofDirectories? (directory :: listed value) = none ↔ colon ∈ directory := by
  have writable : ¬ ∃ other ∈ listed value, colon ∈ other := by
    simpa using fun other member => not_mem_of_mem_listed member
  simp [ofDirectories?, writable]

end SearchPath

def unwritableDirectory? (compiler : String) : Option Path :=
  (compilerDirectory? compiler).filter fun directory => SearchPath.colon ∈ directory

theorem projectEnvironment_of_directory {compiler : String} {directory : Path}
    (found : compilerDirectory? compiler = some directory) (platform : Platform)
    (base : Environment) :
    let name := searchPathNameIn platform base
    projectEnvironment compiler platform base =
      (SearchPath.ofDirectories? (directory :: SearchPath.listed (base.get? name))).elim
        (.error (.unwritableSearchPath directory)) fun value => .ok (base.insert name value) := by
  intro name
  rw [projectEnvironment, found]
  dsimp only
  split
  · next refused =>
      have refused : SearchPath.ofDirectories?
          (directory :: SearchPath.listed (base.get? name)) = none := refused
      rw [refused, Option.elim_none]
  · next value written =>
      have written : SearchPath.ofDirectories?
          (directory :: SearchPath.listed (base.get? name)) = some value := written
      rw [written, Option.elim_some]

theorem projectEnvironment_eq_error_iff {compiler : String} {platform : Platform}
    {base : Environment} {error : RunError} :
    projectEnvironment compiler platform base = .error error ↔
      ∃ directory, unwritableDirectory? compiler = some directory ∧
        error = .unwritableSearchPath directory := by
  rw [unwritableDirectory?]
  cases found : compilerDirectory? compiler with
  | none => simp [projectEnvironment, found]
  | some directory =>
      rw [projectEnvironment_of_directory found]
      by_cases colon : SearchPath.colon ∈ directory
      · rw [SearchPath.ofDirectories?_eq_none_iff.mpr colon]
        simp [Option.filter, colon, eq_comm]
      · rcases Option.ne_none_iff_exists'.mp
          (mt SearchPath.ofDirectories?_eq_none_iff.mp colon) with ⟨value, written⟩
        rw [written]
        simp [Option.filter, colon]

theorem Command.make_eq_error_iff {config : Config} {project : String} {base : Environment}
    {error : RunError} :
    Command.make config project base = .error error ↔
      ∃ directory, unwritableDirectory? config.compiler = some directory ∧
        error = .unwritableSearchPath directory := by
  have environment : projectEnvironment config.compiler config.platform base = .error error ↔ _ :=
    projectEnvironment_eq_error_iff
  rw [← environment, make]
  cases projectEnvironment config.compiler config.platform base <;> simp

end ExampleBuild
