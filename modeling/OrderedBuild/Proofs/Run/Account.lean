import OrderedBuild.Proofs.Run.Unroll

namespace OrderedBuild

variable {σ : Type}

theorem BuildError.exitCode_ne_zero (e : BuildError) : e.exitCode ≠ 0 := by
  cases e with
  | buildFailed package status =>
    by_cases h : status = 0
    · simp [exitCode, h]
    · simp [exitCode, h]
  | interrupted package => simp [exitCode]
  | toolNotFound tool => simp [exitCode]
  | packageDirNotFound path => simp [exitCode]
  | spawn tool package detail => simp [exitCode]

namespace BuildJob

/-- The rounds that the calls and the steps of a run show, for packages from the front of its
plan. -/
structure Account (j : BuildJob) (tools : Tools σ) (plan : BuildPlan) (s : RunState σ)
    (rounds : List Round) : Prop where
  calls_eq : j.run tools.recorded plan (s.recorded []) =
    (j.run tools plan s).recorded (rounds.flatMap Round.calls)
  steps_eq : (j.run tools plan s).steps = Round.stepsFrom plan.packages.length 0 rounds
  packages_prefix : rounds.map Round.package <+: plan.packages
  fits : ∀ r ∈ rounds, r.Fits j tools

section

variable {j : BuildJob} {tools : Tools σ} {plan : BuildPlan} {s : RunState σ}
  {rounds : List Round} {r : Round} {stop : Option BuildError} {e : BuildError}

theorem Unrolls.account
    (h : j.Unrolls tools plan.packages.length 0 plan.packages .empty s rounds stop) :
    j.Account tools plan s rounds :=
  ⟨h.makes.recorded_eq [], h.steps_eq, h.course.packages_prefix, h.fits⟩

theorem Unrolls.result_of_outcome
    (h : j.Unrolls tools plan.packages.length 0 plan.packages .empty s rounds stop)
    (hr : r ∈ rounds) (he : r.outcome j.tests.isSome = .error e) :
    (j.run tools plan s).result = .error e := by
  have hresult : (j.run tools plan s).result = _ := h.result_eq
  rw [hresult, h.course.stop_of_outcome hr he]
  rfl

theorem Unrolls.result_of_none
    (h : j.Unrolls tools plan.packages.length 0 plan.packages .empty s rounds none) :
    (j.run tools plan s).result = .ok ⟨plan.packages, rounds.filterMap Round.report⟩ := by
  have hresult : (j.run tools plan s).result = _ := h.result_eq
  rw [hresult, ← h.course.eq_packages_of_none.1]
  rfl

end

/-- The calls and the steps of a run are those of rounds, in which the packages are built in the
order of the plan, the next one only after a success. The run comes to what its last build came to,
and to a summary of the whole plan only if all succeeded. -/
theorem run_reports_what_happened (j : BuildJob) (tools : Tools σ) (plan : BuildPlan)
    (s : RunState σ) :
    ∃ rounds, j.Account tools plan s rounds ∧
      (∀ r ∈ rounds.dropLast, r.Succeeded) ∧
      (∀ summary, (j.run tools plan s).result = .ok summary →
        rounds.map Round.package = plan.packages ∧ (∀ r ∈ rounds, r.Succeeded) ∧
        summary = ⟨plan.packages, rounds.filterMap Round.report⟩) ∧
      (∀ r ∈ rounds,
        (∀ status, r.build.answer = .ok (.failed status) →
          (j.run tools plan s).result = .error (.buildFailed r.package status) ∧
          (BuildError.buildFailed r.package status).exitCode = if status = 0 then 1 else status) ∧
        (r.build.answer = .ok .interrupted →
          (j.run tools plan s).result = .error (.interrupted r.package) ∧
          (BuildError.interrupted r.package).exitCode = 130) ∧
        ∀ e, r.build.answer = .error e → (j.run tools plan s).result = .error e) ∧
      (s.cancelled = false → (∀ r ∈ rounds, r.Succeeded ∧ r.cancels = false) →
        (j.run tools plan s).result = .ok ⟨plan.packages, rounds.filterMap Round.report⟩) ∧
      ∀ e, (j.run tools plan s).result = .error e → e.exitCode ≠ 0 := by
  obtain ⟨rounds, stop, h⟩ :=
    j.exists_unrolls tools plan.packages.length 0 plan.packages .empty s
  refine ⟨rounds, h.account, fun r => h.course.succeeded_of_mem_dropLast, ?_, ?_, ?_, ?_⟩
  · intro summary hsummary
    cases stop with
    | some e =>
      have hresult : (j.run tools plan s).result = .error e := h.result_eq
      exact absurd (hresult.symm.trans hsummary) (by simp)
    | none =>
      obtain ⟨hpackages, hsucceeded⟩ := h.course.eq_packages_of_none
      exact ⟨hpackages, hsucceeded, Except.ok.inj (hsummary.symm.trans h.result_of_none)⟩
  · intro r hr
    refine ⟨fun status ha => ?_, fun ha => ?_, fun e ha => ?_⟩
    · exact ⟨h.result_of_outcome hr (Round.outcome_of_failed ha), rfl⟩
    · exact ⟨h.result_of_outcome hr (Round.outcome_of_interrupted ha), rfl⟩
    · exact h.result_of_outcome hr (Round.outcome_of_error ha)
  · intro hc hall
    obtain rfl := h.course.stop_eq_none hc hall
    exact h.result_of_none
  · exact fun e _ => e.exitCode_ne_zero

end BuildJob

end OrderedBuild
