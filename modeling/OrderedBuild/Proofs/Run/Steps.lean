import OrderedBuild.Run.Build

namespace OrderedBuild

variable {σ α : Type}

def Stretch.after (r : Stretch σ α) (events : List Event) : Stretch σ α :=
  ⟨events ++ r.events, r.result, r.state⟩

def BuildSummary.add (done : BuildSummary) (package : String) (report : Option TestReport) :
    BuildSummary :=
  ⟨done.built ++ [package], done.tests ++ report.toList⟩

namespace BuildJob

variable (j : BuildJob) (tools : Tools σ) (index total : Nat) (package : String)
  (rest : List String) (done : BuildSummary) (s : RunState σ)

/-- The answer of the build tool for a package. -/
def answer : Answer σ (Except BuildError BackendStatus) :=
  tools.build package (j.context.packageDir package) j.args s.world

def buildEvents : List Event :=
  j.opening index total package ++ .build package (j.context.packageDir package) j.args ::
    (j.answer tools package s).said.map .said

def testStretch : Stretch σ (Option TestReport) :=
  j.testPackage tools package ((j.answer tools package s).leave s)

/-- What is noted about a build that does not succeed, and the error that ends the run. -/
def stop? (package : String) : Except BuildError BackendStatus → Option (List Event × BuildError)
  | .error e => some ([], e)
  | .ok .interrupted => some ([], .interrupted package)
  | .ok (.failed status) =>
    some ([.log .error ("Build failed for " ++ package ++ " with status " ++ toString status)],
      .buildFailed package status)
  | .ok .success => none

def testsInterrupted : Bool :=
  j.tests.isSome && (j.testStretch tools package s).state.cancelled

/-- One package of a run: the error that ends the run, or the report of the package. -/
def turn : Stretch σ (Except BuildError (Option TestReport)) :=
  if s.cancelled then ⟨[], .error (.interrupted package), s⟩
  else match stop? package (j.answer tools package s).value with
    | some (notes, e) =>
      ⟨j.buildEvents tools index total package s ++ notes, .error e,
        (j.answer tools package s).leave s⟩
    | none =>
      let t := j.testStretch tools package s
      ⟨j.buildEvents tools index total package s ++ .built package :: t.events,
        if j.testsInterrupted tools package s then .error (.interrupted package) else .ok t.result,
        t.state⟩

variable {j tools index total package rest done s}

theorem stop?_eq_none_iff {value : Except BuildError BackendStatus} :
    stop? package value = none ↔ value = .ok .success := by
  cases value with
  | error e => simp [stop?]
  | ok status => cases status <;> simp [stop?]

theorem turn_of_cancelled (hc : s.cancelled) :
    j.turn tools index total package s = ⟨[], .error (.interrupted package), s⟩ := by
  rw [turn, if_pos hc]

theorem turn_of_stop (hc : ¬ s.cancelled) {notes : List Event} {e : BuildError}
    (h : stop? package (j.answer tools package s).value = some (notes, e)) :
    j.turn tools index total package s =
      ⟨j.buildEvents tools index total package s ++ notes, .error e,
        (j.answer tools package s).leave s⟩ := by
  rw [turn, if_neg hc, h]

theorem turn_of_success (hc : ¬ s.cancelled)
    (h : (j.answer tools package s).value = .ok .success) :
    j.turn tools index total package s =
      ⟨j.buildEvents tools index total package s ++ .built package ::
          (j.testStretch tools package s).events,
        if j.testsInterrupted tools package s then .error (.interrupted package)
          else .ok (j.testStretch tools package s).result,
        (j.testStretch tools package s).state⟩ := by
  rw [turn, if_neg hc, stop?_eq_none_iff.mpr h]

/-- A run goes on only after a package has been built and its tests ended undisturbed. -/
theorem turn_eq_ok_iff {report : Option TestReport} :
    (j.turn tools index total package s).result = .ok report ↔
      ¬ s.cancelled ∧ (j.answer tools package s).value = .ok .success ∧
      ¬ j.testsInterrupted tools package s ∧ (j.testStretch tools package s).result = report := by
  by_cases hc : s.cancelled
  · simp [turn_of_cancelled hc, hc]
  · cases hstop : stop? package (j.answer tools package s).value with
    | some stop =>
      have hv : (j.answer tools package s).value ≠ .ok .success := fun hv => by
        simp [stop?_eq_none_iff.mpr hv] at hstop
      simp [turn_of_stop hc hstop, hv]
    | none =>
      have hv := stop?_eq_none_iff.mp hstop
      rw [turn_of_success hc hv]
      by_cases hi : j.testsInterrupted tools package s
      · simp [hi]
      · simp [hc, hv, hi]

theorem runFrom_cons_of_stop (hc : ¬ s.cancelled) {notes : List Event} {e : BuildError}
    (h : stop? package (j.answer tools package s).value = some (notes, e)) :
    j.runFrom tools total index (package :: rest) done s =
      ⟨j.buildEvents tools index total package s ++ notes, .error e,
        (j.answer tools package s).leave s⟩ := by
  rw [runFrom, if_neg hc]
  unfold buildEvents answer at *
  cases hv : (tools.build package (j.context.packageDir package) j.args s.world).value with
  | error e' =>
    obtain ⟨rfl, rfl⟩ : [] = notes ∧ e' = e := by simpa [hv, stop?] using h
    simp [hv]
  | ok status =>
    cases status with
    | success => simp [hv, stop?] at h
    | interrupted =>
      obtain ⟨rfl, rfl⟩ : [] = notes ∧ .interrupted package = e := by simpa [hv, stop?] using h
      simp [hv]
    | failed status =>
      simp only [hv, stop?, Option.some.injEq, Prod.mk.injEq] at h
      obtain ⟨rfl, rfl⟩ := h
      simp only [hv]

theorem runFrom_cons_of_error {e : BuildError}
    (h : (j.turn tools index total package s).result = .error e) :
    j.runFrom tools total index (package :: rest) done s =
      ⟨(j.turn tools index total package s).events, .error e,
        (j.turn tools index total package s).state⟩ := by
  by_cases hc : s.cancelled
  · rw [turn_of_cancelled hc] at h ⊢
    obtain rfl := Except.error.inj h
    rw [runFrom, if_pos hc]
  · cases hstop : stop? package (j.answer tools package s).value with
    | some stop =>
      rw [turn_of_stop hc hstop] at h ⊢
      obtain rfl := Except.error.inj h
      rw [runFrom_cons_of_stop hc hstop]
    | none =>
      have hv := stop?_eq_none_iff.mp hstop
      rw [turn_of_success hc hv] at h ⊢
      by_cases hi : j.testsInterrupted tools package s
      · rw [if_pos hi] at h
        obtain rfl := Except.error.inj h
        unfold testsInterrupted testStretch buildEvents answer at *
        rw [runFrom, if_neg hc]
        simp only [hv, hi, if_true]
      · simp [hi] at h

theorem runFrom_cons_of_ok {report : Option TestReport}
    (h : (j.turn tools index total package s).result = .ok report) :
    j.runFrom tools total index (package :: rest) done s =
      (j.runFrom tools total (index + 1) rest (done.add package report)
        (j.turn tools index total package s).state).after
        (j.turn tools index total package s).events := by
  obtain ⟨hc, hv, hi, rfl⟩ := turn_eq_ok_iff.mp h
  rw [turn_of_success hc hv]
  unfold testsInterrupted testStretch buildEvents answer at *
  rw [runFrom, if_neg hc]
  simp only [hv, hi]
  rfl

end BuildJob

end OrderedBuild
