import ExampleBuild.Proofs.Build.Visits

namespace ExampleBuild

/-! A folder is what can be seen of a machine's state at the names of one directory. The
laws here are those that unlinking and the tools keep to, whatever a name leads to. -/

structure Folder (σ : Type) where
  Item : Type
  isDirectory : Item → Bool
  item? : σ → ByteText → Option Item

namespace Folder

variable {σ : Type} (folder : Folder σ) (machine : Machine σ) (directory : Path)

/-- Nothing stands at a name, except for a directory. -/
def IsClearAt (state : σ) (name : ByteText) : Prop :=
  ∀ item, folder.item? state name = some item → folder.isDirectory item = true

/-- Unlinking takes away one item that is no directory, or changes nothing. -/
structure Unlinks : Prop where
  taken : ∀ state name, IsFileName name →
    (machine.unlink state (directory.join name)).1 = .ok () →
      ¬ folder.IsClearAt state name ∧
        folder.item? (machine.unlink state (directory.join name)).2 name = none
  refused : ∀ state name cause, IsFileName name →
    (machine.unlink state (directory.join name)).1 = .error cause →
      folder.item? (machine.unlink state (directory.join name)).2 name =
        folder.item? state name
  others : ∀ state name other, IsFileName name → other ≠ name →
    folder.item? (machine.unlink state (directory.join name)).2 other =
      folder.item? state other

def CanUnlink : Prop :=
  ∀ state name, IsFileName name → ¬ folder.IsClearAt state name →
    (machine.unlink state (directory.join name)).1 = .ok ()

/-- A compiler changes nothing but its output, and making a project changes nothing. -/
structure TidyTools (config : Config) : Prop where
  compiler : ∀ state source artifact name, name ≠ utf8 artifact →
    folder.item? (machine.launch state (.compile config source artifact)
      config.directory).2 name = folder.item? state name
  make : ∀ state project command name,
    Command.make config project machine.environment = .ok command →
      folder.item? (machine.launch state command config.directory).2 name =
        folder.item? state name

/-- Processes change nothing at the names that they are not held to have written. -/
def Covers (wrote : σ → Command → ByteText → Prop) : Prop :=
  ∀ state command name, ¬ wrote state command name →
    folder.item? (machine.launch state command directory).2 name = folder.item? state name

def Changes (state : σ) (command : Command) (name : ByteText) : Prop :=
  folder.item? (machine.launch state command directory).2 name ≠ folder.item? state name

theorem covers_changes : folder.Covers machine directory (folder.Changes machine directory) :=
  fun _ _ _ unchanged => not_not.mp unchanged

section

variable {folder machine directory} {state : σ} {name : ByteText}

theorem isClearAt_of_none (absent : folder.item? state name = none) :
    folder.IsClearAt state name := by
  intro item present
  rw [absent] at present
  cases present

theorem isClearAt_iff_of_some {item : folder.Item}
    (present : folder.item? state name = some item) :
    folder.IsClearAt state name ↔ folder.isDirectory item = true := by
  constructor
  · exact fun clear => clear item present
  · intro directory other found
    cases present.symm.trans found
    exact directory

theorem isClearAt_congr {other : σ}
    (same : folder.item? other name = folder.item? state name) :
    folder.IsClearAt other name ↔ folder.IsClearAt state name := by
  rw [IsClearAt, IsClearAt, same]

theorem Unlinks.clears (unlinks : folder.Unlinks machine directory)
    (canUnlink : folder.CanUnlink machine directory) (fileName : IsFileName name) :
    folder.IsClearAt (machine.unlink state (directory.join name)).2 name := by
  cases came : (machine.unlink state (directory.join name)).1 with
  | ok =>
      exact isClearAt_of_none (unlinks.taken state name fileName came).2
  | error cause =>
      rw [isClearAt_congr (unlinks.refused state name cause fileName came)]
      by_contra notClear
      rw [canUnlink state name fileName notClear] at came
      cases came

end

end Folder

/-! ## What a visit does to a folder -/

namespace Visit

section

variable {σ : Type} {folder : Folder σ} {machine : Machine σ} {config : Config}
  {visit : Visit σ} {name : ByteText}

theorem launched_tidy (tidy : folder.TidyTools machine config)
    (other : ∀ artifact, visit.entry.artifact? = some artifact → name ≠ utf8 artifact) :
    folder.item? (visit.launched machine config) name = folder.item? visit.before name := by
  cases treated : visit.entry.treatment with
  | compile artifact =>
      simpa [launched, Entry.command?_of_source treated] using
        tidy.compiler visit.before visit.entry.name artifact name
          (other artifact (Entry.artifact?_eq_some_iff.mpr treated))
  | make =>
      rw [launched, Entry.command?_of_project treated]
      cases asked : Command.make config visit.entry.name machine.environment with
      | error error => rfl
      | ok command => exact tidy.make visit.before visit.entry.name command name asked
  | excluded | ignored =>
      rw [launched, Entry.command?_of_passed (by simp [treated])]

theorem attempted_others (unlinks : folder.Unlinks machine config.directory)
    (fileNames : ∀ artifact, visit.entry.artifact? = some artifact →
      IsFileName (utf8 artifact))
    (other : ∀ artifact, visit.entry.artifact? = some artifact → name ≠ utf8 artifact) :
    folder.item? (visit.attempted machine config).state name =
      folder.item? (visit.launched machine config) name := by
  cases compiles : visit.entry.artifact? with
  | none => rw [after_of_no_artifact compiles]
  | some artifact =>
      rw [after_of_artifact compiles]
      exact unlinks.others _ _ _ (fileNames artifact compiles) (other artifact compiles)

end

end Visit

end ExampleBuild
