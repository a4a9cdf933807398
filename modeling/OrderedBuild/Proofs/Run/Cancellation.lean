import OrderedBuild.Proofs.Run.Account

namespace OrderedBuild

variable {σ : Type} {cancelled : Bool} {rest : List String} {rounds earlier later : List Round}
  {r : Round} {stop : Option BuildError}

/-- A round during which the run is cancelled is the last one. -/
theorem Undisturbed.later_eq_nil {before after : List Call} {c : Call}
    (h : Undisturbed cancelled ((earlier ++ r :: later).flatMap Round.calls))
    (hr : r.calls = before ++ c :: after) (hc : c.cancels) : after = [] ∧ later = [] := by
  rw [List.flatMap_append, List.flatMap_cons, hr, List.append_assoc, ← List.append_assoc,
    List.cons_append] at h
  obtain ⟨hafter, hlater⟩ := List.append_eq_nil_iff.mp (h.eq_nil_of_cancels hc)
  refine ⟨hafter, ?_⟩
  cases later with
  | nil => rfl
  | cons r' later => simp [Round.calls] at hlater

namespace Round

theorem stepsFrom_append (total index : Nat) (rounds more : List Round) :
    stepsFrom total index (rounds ++ more) =
      stepsFrom total index rounds ++ stepsFrom total (index + rounds.length) more := by
  induction rounds generalizing index with
  | nil => rfl
  | cons r rounds ih =>
    rw [List.cons_append, stepsFrom, ih, stepsFrom, List.append_assoc, List.length_cons,
      Nat.add_assoc, Nat.add_comm 1]

theorem outcome_of_cancels (hs : r.Succeeded) (hc : r.cancels) :
    r.outcome true = .error (.interrupted r.package) := by
  rw [outcome_of_succeeded hs, hc]
  rfl

theorem outcome_untested (hs : r.Succeeded) : r.outcome false = .ok r.report := by
  rw [outcome_of_succeeded hs]
  rfl

theorem cancels_of_build (hc : r.build.cancels) : r.cancels :=
  List.any_eq_true.mpr ⟨.build r.build, List.mem_cons_self, hc⟩

theorem cancels_of_test {t : TestRun} (ht : t ∈ r.tests) (hc : t.call.cancels) : r.cancels :=
  List.any_eq_true.mpr ⟨t.toCall, List.mem_cons_of_mem _ (List.mem_map_of_mem ht), hc⟩

theorem Fits.report_eq_none {j : BuildJob} {tools : Tools σ} (h : r.Fits j tools)
    (hj : j.tests = none) : r.report = none := by
  cases hr : r.report with
  | none => rfl
  | some report =>
    obtain ⟨g, hg, -⟩ := h.report_eq report hr
    exact absurd (hj.symm.trans hg) (by simp)

/-- When tests have run, their report is the last step of a round. -/
theorem Fits.exists_steps_eq {j : BuildJob} {tools : Tools σ} (h : r.Fits j tools)
    (ht : r.tests ≠ []) (index total : Nat) :
    ∃ g, j.tests = some g ∧ r.steps index total =
      .started index total r.package :: r.build.step :: .built r.package ::
        (r.tests.map (·.call.step) ++
          [.testsFinished ⟨r.package, r.tests.map (TestRun.result g)⟩]) := by
  obtain ⟨report, hr⟩ := Option.isSome_iff_exists.mp (h.isSome_report ht)
  obtain ⟨g, hg, rfl⟩ := h.report_eq report hr
  refine ⟨g, hg, ?_⟩
  rw [steps, if_pos (h.succeeded ht), hr]
  rfl

end Round

namespace BuildJob

variable {j : BuildJob} {tools : Tools σ} {plan : BuildPlan} {s : RunState σ}

theorem run_of_cancelled (hc : s.cancelled) :
    j.run tools plan s =
      ⟨[], (plan.packages.head?.map .interrupted).elim (.ok .empty) .error, s⟩ := by
  unfold run
  cases plan.packages with
  | nil => rfl
  | cons package rest => rw [runFrom, if_pos hc]; rfl

/-- A success during which the run is cancelled ends the run before any test, or at the next
package if there are no tests to run. -/
theorem Unrolls.result_of_build_cancels
    (h : j.Unrolls tools plan.packages.length 0 plan.packages .empty s rounds stop)
    (hrest : plan.packages = rounds.map Round.package ++ rest) (hr : rounds.getLast? = some r)
    (hs : r.Succeeded) (hc : r.build.cancels) :
    (j.tests.isSome → (j.run tools plan s).result = .error (.interrupted r.package)) ∧
    (j.tests = none → (j.run tools plan s).result =
      (rest.head?.map .interrupted).elim (.ok ⟨plan.packages, []⟩) .error) := by
  constructor
  · intro hj
    refine h.result_of_outcome (List.mem_of_getLast? hr) ?_
    rw [hj]
    exact Round.outcome_of_cancels hs (Round.cancels_of_build hc)
  · intro hj
    have hcourse := h.course
    rw [hrest] at hcourse
    have hok : r.outcome j.tests.isSome = .ok r.report := by
      rw [hj]
      exact Round.outcome_untested hs
    have hstop := hcourse.stop_of_cancels hr hok (Round.cancels_of_build hc)
    cases hp : rest.head? with
    | some p =>
      have hresult : (j.run tools plan s).result = _ := h.result_eq
      rw [hresult, hstop, hp]
      rfl
    | none =>
      rw [hp] at hstop
      obtain rfl := hstop
      have hreports : rounds.filterMap Round.report = [] := by
        rw [List.filterMap_eq_nil_iff]
        exact fun r hr => (h.fits r hr).report_eq_none hj
      rw [h.result_of_none, hreports]
      rfl

theorem Unrolls.exists_steps_eq
    (h : j.Unrolls tools plan.packages.length 0 plan.packages .empty s (earlier ++ [r]) stop)
    (ht : r.tests ≠ []) :
    ∃ g, j.tests = some g ∧ (j.run tools plan s).steps =
      Round.stepsFrom plan.packages.length 0 earlier ++
        .started earlier.length plan.packages.length r.package :: r.build.step ::
          .built r.package :: (r.tests.map (·.call.step) ++
            [.testsFinished ⟨r.package, r.tests.map (TestRun.result g)⟩]) := by
  have hfits : r.Fits j tools := h.fits r (by simp)
  obtain ⟨g, hg, hsteps⟩ := hfits.exists_steps_eq ht earlier.length plan.packages.length
  have hrun : (j.run tools plan s).steps = _ := h.steps_eq
  refine ⟨g, hg, ?_⟩
  rw [hrun, Round.stepsFrom_append, Round.stepsFrom, Round.stepsFrom, List.append_nil,
    Nat.zero_add, hsteps]

/-- Once a run is cancelled no call begins, and what was going on then settles how it ends: nothing
yet, a build, or a test. -/
theorem run_honours_cancellation (j : BuildJob) (tools : Tools σ) (plan : BuildPlan)
    (s : RunState σ) :
    ∃ rounds rest, j.Account tools plan s rounds ∧
      plan.packages = rounds.map Round.package ++ rest ∧
      (∀ before c after, rounds.flatMap Round.calls = before ++ c :: after →
        s.cancelled = false ∧ ∀ b ∈ before, b.cancels = false) ∧
      (s.cancelled = true → (j.run tools plan s).events = [] ∧
        (∀ p more, plan.packages = p :: more →
          (j.run tools plan s).result = .error (.interrupted p)) ∧
        (plan.packages = [] → (j.run tools plan s).result = .ok .empty)) ∧
      (∀ earlier r later, rounds = earlier ++ r :: later → r.build.cancels = true →
        r.tests = [] ∧ later = [] ∧
        (∀ e, r.build.answer = .error e → (j.run tools plan s).result = .error e) ∧
        (∀ status, r.build.answer = .ok (.failed status) →
          (j.run tools plan s).result = .error (.buildFailed r.package status)) ∧
        (r.build.answer = .ok .interrupted →
          (j.run tools plan s).result = .error (.interrupted r.package)) ∧
        (r.Succeeded → j.tests.isSome →
          (j.run tools plan s).result = .error (.interrupted r.package)) ∧
        (r.Succeeded → j.tests = none →
          (∀ p more, rest = p :: more →
            (j.run tools plan s).result = .error (.interrupted p)) ∧
          (rest = [] → (j.run tools plan s).result = .ok ⟨plan.packages, []⟩))) ∧
      ∀ earlier r later ran t left, rounds = earlier ++ r :: later → r.tests = ran ++ t :: left →
        t.call.cancels = true →
        left = [] ∧ later = [] ∧ (j.run tools plan s).result = .error (.interrupted r.package) ∧
        ∃ g, j.tests = some g ∧ (j.run tools plan s).steps =
          Round.stepsFrom plan.packages.length 0 earlier ++
            .started earlier.length plan.packages.length r.package :: r.build.step ::
              .built r.package :: (r.tests.map (·.call.step) ++
                [.testsFinished ⟨r.package, ran.map (TestRun.result g) ++ [t.result g]⟩]) := by
  obtain ⟨rounds, stop, h⟩ :=
    j.exists_unrolls tools plan.packages.length 0 plan.packages .empty s
  obtain ⟨rest, hrest⟩ := h.course.packages_prefix
  have hu := h.makes.undisturbed
  refine ⟨rounds, rest, h.account, hrest.symm, hu, ?_, ?_, ?_⟩
  · intro hc
    rw [run_of_cancelled hc]
    refine ⟨rfl, fun p more hp => ?_, fun hp => ?_⟩
    · rw [hp]
      rfl
    · rw [hp]
      rfl
  · rintro earlier r later rfl hc
    have hr : r ∈ earlier ++ r :: later := by simp
    -- The build is the first call of its round, so no test of the round can follow it.
    have hcalls : r.calls = [] ++ .build r.build :: r.tests.map TestRun.toCall := rfl
    obtain ⟨htests, rfl⟩ := hu.later_eq_nil hcalls hc
    refine ⟨List.map_eq_nil_iff.mp htests, rfl, fun e ha => ?_, fun status ha => ?_, fun ha => ?_,
      fun hs => ?_, fun hs hj => ?_⟩
    · exact h.result_of_outcome hr (Round.outcome_of_error ha)
    · exact h.result_of_outcome hr (Round.outcome_of_failed ha)
    · exact h.result_of_outcome hr (Round.outcome_of_interrupted ha)
    · exact (h.result_of_build_cancels hrest.symm List.getLast?_concat hs hc).1
    · have hresult := (h.result_of_build_cancels hrest.symm List.getLast?_concat hs hc).2 hj
      refine ⟨fun p more hp => ?_, fun hp => ?_⟩
      · rw [hresult, hp]
        rfl
      · rw [hresult, hp]
        rfl
  · rintro earlier r later ran t left rfl ht hc
    have hr : r ∈ earlier ++ r :: later := by simp
    have hmem : t ∈ r.tests := by simp [ht]
    have hcalls : r.calls =
        (.build r.build :: ran.map TestRun.toCall) ++ t.toCall :: left.map TestRun.toCall := by
      simp [Round.calls, ht]
    obtain ⟨hleft, rfl⟩ := hu.later_eq_nil hcalls hc
    obtain rfl := List.map_eq_nil_iff.mp hleft
    have hne : r.tests ≠ [] := List.ne_nil_of_mem hmem
    obtain ⟨g, hg, hsteps⟩ := h.exists_steps_eq hne
    refine ⟨rfl, rfl, ?_, g, hg, ?_⟩
    · apply h.result_of_outcome hr
      rw [hg]
      exact Round.outcome_of_cancels ((h.fits r hr).succeeded hne) (Round.cancels_of_test hmem hc)
    · have hresults : r.tests.map (TestRun.result g) =
          ran.map (TestRun.result g) ++ [t.result g] := by simp [ht]
      rw [hsteps, hresults]

end BuildJob

end OrderedBuild
