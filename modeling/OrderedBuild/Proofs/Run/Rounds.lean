import OrderedBuild.Proofs.Run.TestRuns

namespace OrderedBuild

variable {σ : Type}

structure Round where
  build : BuildCall
  tests : List TestRun
  report : Option TestReport

namespace Round

def package (r : Round) : String :=
  r.build.package

def calls (r : Round) : List Call :=
  .build r.build :: r.tests.map TestRun.toCall

def cancels (r : Round) : Bool :=
  r.calls.any Call.cancels

def Succeeded (r : Round) : Prop :=
  r.build.answer = .ok .success

instance (r : Round) : Decidable r.Succeeded :=
  inferInstanceAs (Decidable (r.build.answer = .ok .success))

/-- The package is started and built; after a success that is reported, the tests run, and if
there is a report on them it follows. -/
def steps (index total : Nat) (r : Round) : List Event :=
  .started index total r.package :: r.build.step ::
    if r.Succeeded then
      .built r.package :: r.tests.map (·.call.step) ++ r.report.toList.map .testsFinished
    else []

/-- The error that ends a run with a round, or the report with which it goes on. -/
def outcome (tested : Bool) (r : Round) : Except BuildError (Option TestReport) :=
  match BuildJob.stop? r.package r.build.answer with
  | some stop => .error stop.2
  | none =>
    if tested && r.cancels then .error (.interrupted r.package) else .ok r.report

end Round

namespace BuildJob

def call (j : BuildJob) (tools : Tools σ) (package : String) (s : RunState σ) : BuildCall :=
  tools.buildCall package (j.context.packageDir package) j.args s.world

theorem value_answer_recorded (j : BuildJob) (tools : Tools σ) (package : String)
    (s : RunState σ) (calls : List Call) :
    (j.answer tools.recorded package (s.recorded calls)).value =
      (j.answer tools package s).value := rfl

variable {j : BuildJob} {tools : Tools σ} {package : String} {s : RunState σ}

theorem filter_isStep_of_stop? {value : Except BuildError BackendStatus} {notes : List Event}
    {e : BuildError} (h : stop? package value = some (notes, e)) :
    notes.filter Event.isStep = [] := by
  cases value with
  | error e' =>
    obtain ⟨rfl, -⟩ : [] = notes ∧ e' = e := by simpa [stop?] using h
    rfl
  | ok status =>
    cases status with
    | success => simp [stop?] at h
    | interrupted =>
      obtain ⟨rfl, -⟩ : [] = notes ∧ .interrupted package = e := by simpa [stop?] using h
      rfl
    | failed status =>
      simp only [stop?, Option.some.injEq, Prod.mk.injEq] at h
      obtain ⟨rfl, -⟩ := h
      rfl

theorem filter_isStep_buildEvents (index total : Nat) :
    (j.buildEvents tools index total package s).filter Event.isStep =
      [.started index total package, (j.call tools package s).step] := by
  have hopening : (j.opening index total package).filter Event.isStep =
      [.started index total package] := rfl
  rw [buildEvents, List.filter_append, hopening, List.filter_cons_of_pos rfl,
    filter_isStep_map_said]
  rfl

end BuildJob

namespace Round

variable {r : Round} {tested : Bool} {report : Option TestReport}

theorem outcome_of_stop? {notes : List Event} {e : BuildError}
    (h : BuildJob.stop? r.package r.build.answer = some (notes, e)) :
    r.outcome tested = .error e := by
  rw [outcome, h]

theorem outcome_of_error {e : BuildError} (h : r.build.answer = .error e) :
    r.outcome tested = .error e := by
  have hstop : BuildJob.stop? r.package r.build.answer = some ([], e) := by rw [h]; rfl
  exact outcome_of_stop? hstop

theorem outcome_of_failed {status : Int} (h : r.build.answer = .ok (.failed status)) :
    r.outcome tested = .error (.buildFailed r.package status) := by
  obtain ⟨notes, hstop⟩ : ∃ notes, BuildJob.stop? r.package r.build.answer =
      some (notes, .buildFailed r.package status) := by
    rw [h]
    exact ⟨_, rfl⟩
  exact outcome_of_stop? hstop

theorem outcome_of_interrupted (h : r.build.answer = .ok .interrupted) :
    r.outcome tested = .error (.interrupted r.package) := by
  have hstop : BuildJob.stop? r.package r.build.answer = some ([], .interrupted r.package) := by
    rw [h]
    rfl
  exact outcome_of_stop? hstop

theorem outcome_of_succeeded (h : r.Succeeded) :
    r.outcome tested =
      if tested && r.cancels then .error (.interrupted r.package) else .ok r.report := by
  rw [outcome, BuildJob.stop?_eq_none_iff.mpr h]

theorem outcome_eq_ok_iff :
    r.outcome tested = .ok report ↔
      r.Succeeded ∧ (tested && r.cancels) = false ∧ r.report = report := by
  by_cases h : r.Succeeded
  · rw [outcome_of_succeeded h]
    cases tested && r.cancels <;> simp [h]
  · cases hstop : BuildJob.stop? r.package r.build.answer with
    | none => exact absurd (BuildJob.stop?_eq_none_iff.mp hstop) h
    | some stop => simp [outcome_of_stop? hstop, h]

/-- What a round of a run has to do with its job and its tools. -/
structure Fits (j : BuildJob) (tools : Tools σ) (r : Round) : Prop where
  dir_eq : r.build.dir = Path.join j.context.sourceRoot r.package
  args_eq : r.build.args = j.args
  succeeded : r.tests ≠ [] → r.Succeeded
  finds : ∀ t ∈ r.tests, ∃ g, j.tests = some g ∧ g.Finds tools j.context r.package t
  report_eq : ∀ report, r.report = some report →
    ∃ g, j.tests = some g ∧ report = ⟨r.package, r.tests.map (TestRun.result g)⟩
  isSome_report : r.tests ≠ [] → r.report.isSome

end Round

namespace BuildJob

structure Takes (j : BuildJob) (tools : Tools σ) (index total : Nat) (package : String)
    (s : RunState σ) (r : Round) : Prop where
  package_eq : r.package = package
  fits : r.Fits j tools
  makes : (j.turn tools index total package s).Makes
    (fun calls => j.turn tools.recorded index total package (s.recorded calls))
    s.cancelled r.calls
  steps_eq : (j.turn tools index total package s).steps = r.steps index total
  result_eq : (j.turn tools index total package s).result = r.outcome j.tests.isSome

variable {j : BuildJob} {tools : Tools σ} {package : String} {s : RunState σ} {index total : Nat}

theorem takes_of_stop (hc : ¬ s.cancelled) {notes : List Event} {e : BuildError}
    (h : stop? package (j.answer tools package s).value = some (notes, e)) :
    j.Takes tools index total package s ⟨j.call tools package s, [], none⟩ := by
  have hfailed : ¬ (⟨j.call tools package s, [], none⟩ : Round).Succeeded := by
    intro hs
    have hv : (j.answer tools package s).value = .ok .success := hs
    simp [stop?_eq_none_iff.mpr hv] at h
  refine ⟨rfl, ?_, ?_, ?_, ?_⟩
  · exact ⟨rfl, rfl, by simp, by simp, by simp, by simp⟩
  · have hrecorded : (fun calls => j.turn tools.recorded index total package (s.recorded calls)) =
        _ := funext fun calls => by
      have hc' : ¬ (s.recorded calls).cancelled := hc
      have hvalue := congrArg (stop? package) (value_answer_recorded j tools package s calls)
      exact turn_of_stop hc' (hvalue.trans h)
    have hmakes := Stretch.makes_nil (j.buildEvents tools index total package s ++ notes)
      (Except.error (α := Option TestReport) e) ((j.answer tools package s).leave s)
    rw [hrecorded, turn_of_stop hc h]
    exact hmakes.cons (c := .build (j.call tools package s)) hc rfl
  · rw [turn_of_stop hc h, Round.steps, if_neg hfailed, Stretch.steps, List.filter_append,
      filter_isStep_buildEvents, filter_isStep_of_stop? h]
    rfl
  · rw [turn_of_stop hc h]
    exact (Round.outcome_of_stop? (r := ⟨j.call tools package s, [], none⟩) h).symm

theorem takes_of_success (hc : ¬ s.cancelled) {tests : List TestRun}
    (h : (j.answer tools package s).value = .ok .success)
    (ht : j.Tested tools package ((j.answer tools package s).leave s) tests) :
    j.Takes tools index total package s
      ⟨j.call tools package s, tests, (j.testStretch tools package s).result⟩ := by
  have hs : (⟨j.call tools package s, tests, (j.testStretch tools package s).result⟩ :
      Round).Succeeded := h
  have hmakes := ht.makes.cons (c := .build (j.call tools package s)) hc rfl
  have hstretch : ∀ calls, j.testStretch tools.recorded package (s.recorded calls) = _ :=
    hmakes.recorded_eq
  have hinterrupted : ∀ calls, j.testsInterrupted tools.recorded package (s.recorded calls) =
      j.testsInterrupted tools package s := fun calls => by
    rw [testsInterrupted, hstretch]
    rfl
  refine ⟨rfl, ?_, ?_, ?_, ?_⟩
  · exact ⟨rfl, rfl, fun _ => hs, ht.finds, ht.report_eq, ht.isSome_report⟩
  · have hrecorded : (fun calls => j.turn tools.recorded index total package (s.recorded calls)) =
        _ := funext fun calls => by
      have hc' : ¬ (s.recorded calls).cancelled := hc
      rw [turn_of_success hc' ((value_answer_recorded j tools package s calls).trans h),
        hinterrupted]
    rw [hrecorded, turn_of_success hc h]
    exact hmakes.told (j.buildEvents tools index total package s ++ .built package :: ·)
      (fun report => if j.testsInterrupted tools package s then
        Except.error (BuildError.interrupted package) else Except.ok report)
  · have hsteps := ht.steps_eq
    rw [turn_of_success hc h, Round.steps, if_pos hs]
    unfold Stretch.steps at hsteps ⊢
    rw [List.filter_append, filter_isStep_buildEvents, List.filter_cons_of_pos rfl, testStretch,
      hsteps]
    rfl
  · have hcancelled : (j.testStretch tools package s).state.cancelled = _ := hmakes.cancelled_eq
    rw [(Bool.not_eq_true _).mp hc, Bool.false_or] at hcancelled
    rw [turn_of_success hc h, Round.outcome_of_succeeded hs, testsInterrupted, hcancelled]
    rfl

theorem exists_takes (j : BuildJob) (tools : Tools σ) (index total : Nat) (package : String)
    (hc : ¬ s.cancelled) : ∃ r, j.Takes tools index total package s r := by
  cases hstop : stop? package (j.answer tools package s).value with
  | some stop => exact ⟨_, takes_of_stop hc hstop⟩
  | none =>
    obtain ⟨tests, ht⟩ := j.exists_tested tools package ((j.answer tools package s).leave s)
    exact ⟨_, takes_of_success hc (stop?_eq_none_iff.mp hstop) ht⟩

end BuildJob

end OrderedBuild
