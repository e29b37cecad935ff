import ExampleBuild.Proofs.Build.Directory

namespace ExampleBuild

/-! Whether a run succeeded can be told from its launches. A run that an error stops has
come to a project without a command, and then not everything was launched. -/

/-- Everything that can be built was launched, in order and each once, and succeeded. -/
structure EachSucceeds (config : Config) (environment : Environment) (entries : List Entry)
    (launched : List Launch) : Prop where
  each : List.Forall₂ (Launch.Builds config environment) launched (buildableIn entries)
  succeeded : ∀ launch ∈ launched, launch.Succeeds

section

variable {σ : Type} {machine : Machine σ} {config : Config}

theorem Course.exists_no_command {entries : List Entry} {state after : σ}
    {done : List Action} {error : RunError}
    (course : Course machine config entries state done (.error error) after) :
    ∃ entry ∈ buildableIn entries, entry.command? config machine.environment = none := by
  have onward {entry : Entry} {rest : List Entry}
      (later : ∃ other ∈ buildableIn rest,
        other.command? config machine.environment = none) :
      ∃ other ∈ buildableIn (entry :: rest),
        other.command? config machine.environment = none := by
    rcases later with ⟨other, member, noCommand⟩
    have after := (List.sublist_cons_self entry rest).filter fun entry =>
      entry.treatment.isBuildable
    exact ⟨other, after.subset member, noCommand⟩
  -- The error is that of the rest at every entry but the one that has no command.
  generalize stopped : (Except.error error : Except RunError Outcome) = result at course
  induction course with
  | finished => cases stopped
  | @passed _ _ _ _ _ result _ _ induction =>
      cases result with
      | error error =>
          cases stopped
          exact onward (induction rfl)
      | ok outcome => cases stopped
  | @built _ _ _ _ _ _ _ _ result _ _ induction =>
      cases result with
      | error error =>
          cases stopped
          exact onward (induction rfl)
      | ok outcome => cases stopped
  | failed => cases stopped
  | @stopped entry rest _ _ treated refused =>
      refine ⟨entry, by simp [treated], ?_⟩
      rw [Entry.command?_of_project treated, refused, Except.toOption]

theorem EachSucceeds.exists_command {environment : Environment} {entries : List Entry}
    {launched : List Launch} (succeeds : EachSucceeds config environment entries launched)
    {entry : Entry} (member : entry ∈ buildableIn entries) :
    ∃ command, entry.command? config environment = some command := by
  rcases List.forall₂_iff_get.mp succeeds.each with ⟨sameLength, builds⟩
  rcases List.mem_iff_get.mp member with ⟨index, rfl⟩
  exact ⟨_, (builds index (index.isLt.trans_eq sameLength.symm) index.isLt).1⟩

theorem FailedAt.exists_unsuccessful {environment : Environment} {entries : List Entry}
    {launched : List Launch} {outcome : Outcome}
    (fails : FailedAt config environment entries launched outcome) :
    ∃ launch ∈ launched, ¬ launch.Succeeds := by
  rcases fails with
    @⟨before, after, earlier, entry, last, fault, split, each, succeeded, builds, faulty⟩
  refine ⟨last, List.mem_append_right _ List.mem_cons_self, fun succeeds => ?_⟩
  rw [Ending.fault?_eq_none_iff.mpr succeeds] at faulty
  cases faulty

theorem FailedAt.not_eachSucceeds {environment : Environment} {entries : List Entry}
    {launched : List Launch} {outcome : Outcome}
    (fails : FailedAt config environment entries launched outcome) :
    ¬ EachSucceeds config environment entries launched := by
  intro succeeds
  rcases fails.exists_unsuccessful with ⟨launch, member, unsuccessful⟩
  exact unsuccessful (succeeds.succeeded launch member)

theorem FailedAt.not_succeeded {environment : Environment} {entries : List Entry}
    {launched : List Launch} {outcome : Outcome}
    (fails : FailedAt config environment entries launched outcome) (summary : Summary) :
    outcome ≠ .succeeded summary := by
  cases fails
  exact fun same => Outcome.noConfusion same

theorem Course.succeeds_iff {entries : List Entry} {state after : σ} {done : List Action}
    {result : Except RunError Outcome}
    (course : Course machine config entries state done result after) :
    (∃ summary, result = .ok (.succeeded summary)) ↔
      EachSucceeds config machine.environment entries (launches done) := by
  cases result with
  | error error =>
      refine ⟨fun impossible => by simp at impossible, fun succeeds => ?_⟩
      rcases course.exists_no_command with ⟨entry, member, noCommand⟩
      rcases succeeds.exists_command member with ⟨command, asked⟩
      cases noCommand.symm.trans asked
  | ok outcome =>
      rcases course.account with all | fails
      · exact ⟨fun _ => ⟨all.each, all.succeeded⟩, fun _ => ⟨_, by rw [all.outcome_eq]⟩⟩
      · constructor
        · rintro ⟨summary, same⟩
          exact absurd (Except.ok.inj same) (fails.not_succeeded summary)
        · exact fun succeeds => absurd succeeds fails.not_eachSucceeds

/-- A directory is built with success exactly if it has a plan, and everything in it was
launched and succeeded. -/
theorem buildDirectory_succeeds_iff (machine : Machine σ) (config : Config) (state : σ) :
    let run := buildDirectory machine config state
    (∃ summary, run.result = .ok (.succeeded summary)) ↔
      ∃ plan, (discover machine config.directory config.platform state).result = .ok plan ∧
        EachSucceeds config machine.environment plan.entries (launches run.actions) := by
  simp only [buildDirectory_result, launches_buildDirectory]
  cases (discover machine config.directory config.platform state).result with
  | error error => simp
  | ok plan =>
      simp only [Except.ok.injEq, exists_eq_left', Plan.build]
      rw [← launches_deeds]
      exact (buildEntries_course machine config plan.entries state).succeeds_iff

end

end ExampleBuild
