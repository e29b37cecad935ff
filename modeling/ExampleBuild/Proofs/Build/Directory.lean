import ExampleBuild.Proofs.Build.Accounting
import ExampleBuild.Proofs.Entry.Artifacts

namespace ExampleBuild

/-! A run of a directory first reads which entries stand there, and then builds them.
Reading takes notes and does nothing, so what is launched, and what comes of it, is that of
the plan. -/

section

variable {σ : Type} (machine : Machine σ)

theorem discover_notes (directory : Path) (platform : Platform) (state : σ) :
    ∃ events : List Event,
      (discover machine directory platform state).actions = events.map .noted := by
  rw [discover, Activity.bind_apply]
  cases listed : machine.list state directory with
  | error cause => exact ⟨[], by simp [listed]⟩
  | ok listing =>
      refine ⟨(readNames listing).1.map (discoveryEvent platform), ?_⟩
      cases failed : (readNames listing).2 <;>
        simp [listed, failed, Activity.inOrder_note]

variable (config : Config) (state : σ)

theorem buildDirectory_eq :
    buildDirectory machine config state =
      let discovered := discover machine config.directory config.platform state
      match discovered.result with
      | .error error => ⟨.error error, discovered.actions, state⟩
      | .ok plan =>
          let built := plan.build machine config state
          ⟨built.result, discovered.actions ++
            .noted (.discovered config.directory plan) :: built.actions, built.state⟩ := by
  have unchanged := (discover_eq machine config.directory config.platform state).1
  rw [buildDirectory, Activity.bind_apply, unchanged]
  cases came : (discover machine config.directory config.platform state).result with
  | error error => simp [came]
  | ok plan => simp [came]

theorem buildDirectory_result :
    (buildDirectory machine config state).result =
      match (discover machine config.directory config.platform state).result with
      | .error error => .error error
      | .ok plan => (plan.build machine config state).result := by
  rw [buildDirectory_eq]
  cases came : (discover machine config.directory config.platform state).result <;>
    simp only [came]

theorem launches_buildDirectory :
    launches (buildDirectory machine config state).actions =
      match (discover machine config.directory config.platform state).result with
      | .error _ => []
      | .ok plan => launches (plan.build machine config state).actions := by
  rcases discover_notes machine config.directory config.platform state with ⟨events, notes⟩
  rw [buildDirectory_eq]
  cases came : (discover machine config.directory config.platform state).result with
  | error error => simp only [came, notes, launches_notes]
  | ok plan =>
      simp only [came, notes, launches_append, launches_notes, launches_noted, List.nil_append]

end

end ExampleBuild
