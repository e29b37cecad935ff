import ExampleBuild.Discovery

namespace ExampleBuild

/-! The entries of a plan are built one at a time, in order. The first build that fails
ends the run, and the entries after it are not attempted. -/

namespace Command

def perform {σ : Type} (machine : Machine σ) (command : Command) (directory : Path) :
    Activity σ (Option Fault) := do
  .note (.spawning command.program command.arguments directory)
  let ending ← .launch machine command directory
  return ending.fault? command.program

end Command

def removalEvent (path : Path) : Except SystemError Unit → Event
  | .ok () => .artifactRemoved path
  | .error .notFound => .noArtifact path
  | .error cause => .artifactKept path cause

/-- Remove what a build left. That may fail, or find nothing, without any consequence
for the run. -/
def removeArtifact {σ : Type} (machine : Machine σ) (path : Path) : Activity σ Unit := do
  let result ← .unlink machine path
  .note (removalEvent path result)

/-! ## One entry -/

inductive Attempt
  | skipped
  | ignored
  | built
  | failed (fault : Fault)
  | stopped (error : RunError)

namespace Attempt

def ofFault? : Option Fault → Attempt
  | none => .built
  | some fault => .failed fault

@[simp] theorem ofFault?_none : ofFault? none = .built := rfl

@[simp] theorem ofFault?_some (fault : Fault) : ofFault? (some fault) = .failed fault := rfl

end Attempt

namespace Entry

/-- Do what the treatment of an entry asks for. The artifact of a source is removed
however the compiler ended. -/
def attempt {σ : Type} (machine : Machine σ) (config : Config) (entry : Entry) :
    Activity σ Attempt :=
  match entry.treatment with
  | .excluded => do
      .note (.skippingExcluded entry.name config.platform)
      return .skipped
  | .ignored => return .ignored
  | .compile artifact => do
      .note (.buildingExample entry.name)
      let command := Command.compile config entry.name artifact
      let fault ← command.perform machine config.directory
      removeArtifact machine (config.directory.join (utf8 artifact))
      return .ofFault? fault
  | .make => do
      .note (.buildingProject entry.name)
      match Command.make config entry.name machine.environment with
      | .error error => return .stopped error
      | .ok command =>
          let fault ← command.perform machine config.directory
          return .ofFault? fault

end Entry

/-! ## All entries -/

def buildEntries {σ : Type} (machine : Machine σ) (config : Config) :
    List Entry → Activity σ (Except RunError Outcome)
  | [] => return .ok .nothing
  | entry :: rest => do
      match ← entry.attempt machine config with
      | .skipped => return (← buildEntries machine config rest).map (.afterSkipping entry.name)
      | .ignored => return (← buildEntries machine config rest).map (.afterIgnoring entry.name)
      | .built => return (← buildEntries machine config rest).map (.afterBuilding entry.name)
      | .failed fault =>
          .note (.buildFailed entry.name fault)
          return .ok (.failed ⟨entry.name, fault, []⟩)
      | .stopped error => return .error error

namespace Plan

def build {σ : Type} (machine : Machine σ) (config : Config) (plan : Plan) :
    Activity σ (Except RunError Outcome) :=
  buildEntries machine config plan.entries

end Plan

def buildDirectory {σ : Type} (machine : Machine σ) (config : Config) :
    Activity σ (Except RunError Outcome) := do
  match ← discover machine config.directory config.platform with
  | .error error => return .error error
  | .ok plan =>
      .note (.discovered config.directory plan)
      plan.build machine config

end ExampleBuild
