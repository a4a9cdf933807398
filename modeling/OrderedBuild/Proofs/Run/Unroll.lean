import OrderedBuild.Proofs.Run.Course

namespace OrderedBuild

variable {σ : Type}

def BuildSummary.addRounds (done : BuildSummary) (rounds : List Round) : BuildSummary :=
  ⟨done.built ++ rounds.map Round.package, done.tests ++ rounds.filterMap Round.report⟩

theorem BuildSummary.addRounds_cons (done : BuildSummary) (r : Round) (rounds : List Round) :
    done.addRounds (r :: rounds) = (done.add r.package r.report).addRounds rounds := by
  cases h : r.report with
  | none => simp [addRounds, add, h]
  | some report => simp [addRounds, add, h]

/-- The steps of rounds whose first has the given index. -/
def Round.stepsFrom (total : Nat) : Nat → List Round → List Event
  | _, [] => []
  | index, r :: rounds => r.steps index total ++ stepsFrom total (index + 1) rounds

namespace BuildJob

variable {j : BuildJob} {tools : Tools σ} {index total : Nat} {package : String}
  {rest packages : List String} {done : BuildSummary} {s : RunState σ}

/-- The rounds of a run from a package of its plan on. -/
structure Unrolls (j : BuildJob) (tools : Tools σ) (total index : Nat) (packages : List String)
    (done : BuildSummary) (s : RunState σ) (rounds : List Round) (stop : Option BuildError) :
    Prop where
  course : Course j.tests.isSome s.cancelled packages rounds stop
  fits : ∀ r ∈ rounds, r.Fits j tools
  makes : (j.runFrom tools total index packages done s).Makes
    (fun calls => j.runFrom tools.recorded total index packages done (s.recorded calls))
    s.cancelled (rounds.flatMap Round.calls)
  steps_eq : (j.runFrom tools total index packages done s).steps =
    Round.stepsFrom total index rounds
  result_eq : (j.runFrom tools total index packages done s).result =
    stop.elim (.ok (done.addRounds rounds)) .error

theorem unrolls_nil : j.Unrolls tools total index [] done s [] none := by
  refine ⟨.finished s.cancelled, by simp, Stretch.makes_nil [] _ s, rfl, ?_⟩
  simp [runFrom, BuildSummary.addRounds]

theorem unrolls_of_cancelled (hc : s.cancelled) :
    j.Unrolls tools total index (package :: rest) done s [] (some (.interrupted package)) := by
  have hrun : ∀ {τ : Type} (tools : Tools τ) (t : RunState τ), t.cancelled →
      j.runFrom tools total index (package :: rest) done t =
        ⟨[], .error (.interrupted package), t⟩ := fun _ _ ht => by
    rw [runFrom, if_pos ht]
  constructor
  · rw [hc]
    exact .cancelled package rest
  · simp
  · simp only [hrun tools s hc, hrun tools.recorded (s.recorded _) hc]
    exact Stretch.makes_nil [] _ s
  · rw [hrun tools s hc]
    rfl
  · rw [hrun tools s hc]
    rfl

theorem unrolls_of_error {r : Round} {e : BuildError} (hc : ¬ s.cancelled)
    (h : j.Takes tools index total package s r) (he : r.outcome j.tests.isSome = .error e) :
    j.Unrolls tools total index (package :: rest) done s [r] (some e) := by
  obtain rfl := h.package_eq
  have hturn := h.result_eq.trans he
  constructor
  · rw [Bool.not_eq_true] at hc
    rw [hc]
    exact .stopped rest he
  · exact List.forall_mem_singleton.mpr h.fits
  · have hrecorded : (fun calls => j.runFrom tools.recorded total index (r.package :: rest) done
        (s.recorded calls)) = _ :=
      funext fun calls => runFrom_cons_of_error ((h.makes.result_eq calls).trans hturn)
    rw [hrecorded, runFrom_cons_of_error hturn, List.flatMap_singleton]
    exact h.makes.told id fun _ => Except.error e
  · rw [runFrom_cons_of_error hturn, Round.stepsFrom, Round.stepsFrom, List.append_nil]
    exact h.steps_eq
  · rw [runFrom_cons_of_error hturn]
    rfl

theorem unrolls_of_ok {r : Round} {rounds : List Round} {stop : Option BuildError}
    (hc : ¬ s.cancelled) (h : j.Takes tools index total package s r)
    (hr : r.outcome j.tests.isSome = .ok r.report)
    (more : j.Unrolls tools total (index + 1) rest (done.add package r.report)
      (j.turn tools index total package s).state rounds stop) :
    j.Unrolls tools total index (package :: rest) done s (r :: rounds) stop := by
  obtain rfl := h.package_eq
  have hturn := h.result_eq.trans hr
  constructor
  · -- The rest begins cancelled exactly if a call of this round cancelled the run.
    have hcourse := more.course
    rw [Bool.not_eq_true] at hc
    rw [h.makes.cancelled_eq, hc, Bool.false_or] at hcourse
    rw [hc]
    exact .next hr hcourse
  · exact List.forall_mem_cons.mpr ⟨h.fits, more.fits⟩
  · have hrecorded : (fun calls => j.runFrom tools.recorded total index (r.package :: rest) done
        (s.recorded calls)) = fun calls =>
          (j.runFrom tools.recorded total (index + 1) rest (done.add r.package r.report)
            ((j.turn tools index total r.package s).state.recorded (calls ++ r.calls))).after
            (j.turn tools.recorded index total r.package (s.recorded calls)).events := by
      funext calls
      rw [runFrom_cons_of_ok ((h.makes.result_eq calls).trans hturn), h.makes.recorded_eq]
      rfl
    rw [hrecorded, runFrom_cons_of_ok hturn, List.flatMap_cons]
    exact h.makes.after more.makes
  · have hsteps := more.steps_eq
    have hfirst := h.steps_eq
    rw [runFrom_cons_of_ok hturn, Round.stepsFrom]
    unfold Stretch.steps at hsteps hfirst ⊢
    rw [Stretch.after, List.filter_append, hfirst, hsteps]
  · rw [runFrom_cons_of_ok hturn, BuildSummary.addRounds_cons]
    exact more.result_eq

/-- Whatever the tools answer, a run takes rounds and comes to what they come to. -/
theorem exists_unrolls (j : BuildJob) (tools : Tools σ) (total index : Nat)
    (packages : List String) (done : BuildSummary) (s : RunState σ) :
    ∃ rounds stop, j.Unrolls tools total index packages done s rounds stop := by
  induction packages generalizing index done s with
  | nil => exact ⟨[], none, unrolls_nil⟩
  | cons package rest ih =>
    by_cases hc : s.cancelled
    · exact ⟨[], _, unrolls_of_cancelled hc⟩
    · -- The rest is a run from the state that this turn leaves.
      obtain ⟨r, h⟩ := j.exists_takes tools index total package hc
      cases hr : r.outcome j.tests.isSome with
      | error e => exact ⟨[r], some e, unrolls_of_error hc h hr⟩
      | ok report =>
        obtain ⟨-, -, rfl⟩ := Round.outcome_eq_ok_iff.mp hr
        obtain ⟨rounds, stop, more⟩ := ih (index + 1) (done.add package r.report)
          (j.turn tools index total package s).state
        exact ⟨r :: rounds, stop, unrolls_of_ok hc h hr more⟩

/-- Builds of packages from the front of a list, of which all but the last succeeded. -/
def FollowsPlan (builds : List BuildCall) (packages : List String) : Prop :=
  builds.map BuildCall.package <+: packages ∧ ∀ c ∈ builds.dropLast, c.answer = .ok .success

theorem filterMap_build?_flatMap_calls (rounds : List Round) :
    (rounds.flatMap Round.calls).filterMap Call.build? = rounds.map Round.build := by
  have htests : ∀ tests : List TestRun, (tests.map TestRun.toCall).filterMap Call.build? = [] := by
    simp [List.filterMap_map, TestRun.toCall, Function.comp_def, Call.build?]
  induction rounds with
  | nil => rfl
  | cons r rounds ih =>
    have hcalls : r.calls.filterMap Call.build? = [r.build] :=
      congrArg (r.build :: ·) (htests r.tests)
    rw [List.flatMap_cons, List.filterMap_append, ih, hcalls]
    rfl

/-- A recorded run is the same run, and its builds follow the plan. -/
theorem runFrom_recorded (j : BuildJob) (tools : Tools σ) (total index : Nat)
    (packages : List String) (done : BuildSummary) (s : RunState σ) (calls : List Call) :
    ∃ made : List Call,
      j.runFrom tools.recorded total index packages done (s.recorded calls) =
        (j.runFrom tools total index packages done s).recorded (calls ++ made) ∧
      FollowsPlan (made.filterMap Call.build?) packages := by
  obtain ⟨rounds, stop, h⟩ := j.exists_unrolls tools total index packages done s
  refine ⟨rounds.flatMap Round.calls, h.makes.recorded_eq calls, ?_⟩
  rw [filterMap_build?_flatMap_calls]
  constructor
  · rw [List.map_map]
    exact h.course.packages_prefix
  · rw [← List.map_dropLast]
    exact List.forall_mem_map.mpr fun r hr => h.course.succeeded_of_mem_dropLast hr

end BuildJob

end OrderedBuild
