import Mathlib.Data.List.Forall2
import OrderedBuild.Proofs.Run.TestRuns
import OrderedBuild.Proofs.Test.Discovery

namespace OrderedBuild

theorem TestReport.passed_add_failed (r : TestReport) : r.passed + r.failed = r.results.length := by
  unfold passed failed count
  rw [List.length_eq_countP_add_countP (·.status = .passed)]
  congr 2
  funext x
  cases x.status <;> simp

namespace TestTrigger

variable {σ : Type} {g : TestTrigger} {tools : Tools σ} {c : ExecutionContext}
  {package dir : String} {env : Env} {names : List String} {entries : List DirEntry}
  {s : RunState σ} {tests : List TestRun}

/-- A test is reported as its call was answered: what could not be run failed, whatever it says. -/
structure Reports (g : TestTrigger) (t : TestRun) (r : TestResult) : Prop where
  name_eq : r.name = t.name
  passed_iff : r.status = .passed ↔
    ∃ o, t.call.answer = .ok o ∧ classify o.combined g.passMarkers = .passed
  of_ok : ∀ o, t.call.answer = .ok o → r.output = o.combined
  of_error : ∀ e, t.call.answer = .error e → r.status = .failed ∧ r.output = e.message

theorem reports_result (g : TestTrigger) (t : TestRun) : g.Reports t (t.result g) := by
  rcases t with ⟨name, call⟩
  unfold TestRun.result
  cases ha : call.answer with
  | ok o => exact ⟨rfl, by simp [resultOf, ha], by simp [resultOf, ha], by simp [ha]⟩
  | error e => exact ⟨rfl, by simp [resultOf, ha], by simp [ha], by simp [resultOf, ha]⟩

theorem reports_results (g : TestTrigger) (tests : List TestRun) :
    List.Forall₂ g.Reports tests (tests.map (TestRun.result g)) := by
  rw [List.forall₂_map_right_iff]
  exact List.forall₂_same.mpr fun t _ => g.reports_result t

theorem length_result_runEach
    (h : (g.runEach tools package dir env names s).state.cancelled = false) :
    (g.runEach tools package dir env names s).result.length = names.length := by
  induction names generalizing s with
  | nil => rfl
  | cons name names ih =>
    by_cases hc : s.cancelled
    · rw [runEach_cons_of_cancelled hc, hc] at h
      cases h
    · rw [runEach_cons hc] at h ⊢
      exact congrArg Nat.succ (ih h)

theorem RanEach.names_eq (h : g.RanEach tools package dir env names s tests) :
    tests.map TestRun.name = names.take tests.length := by
  simpa using List.prefix_iff_eq_take.mp h.names_prefix

theorem RanEach.eq_nil_of_cancelled (h : g.RanEach tools package dir env names s tests)
    (hs : s.cancelled) : tests = [] := by
  have hcalls := h.makes.undisturbed
  rw [hs] at hcalls
  exact List.map_eq_nil_iff.mp hcalls.eq_nil_of_cancelled

theorem RanEach.length_eq (h : g.RanEach tools package dir env names s tests)
    (hs : s.cancelled = false) (hn : ∀ t ∈ tests, t.call.cancels = false) :
    tests.length = names.length := by
  have hany : (tests.map TestRun.toCall).any Call.cancels = false := by
    rw [List.any_map, List.any_eq_false]
    exact fun t ht => Bool.not_eq_true _ ▸ hn t ht
  have hend : (g.runEach tools package dir env names s).state.cancelled = false := by
    rw [h.makes.cancelled_eq, hs, hany]
    rfl
  rw [← length_result_runEach hend, h.result_eq, List.length_map]

theorem RanEach.eq_nil_of_cancels {before after : List TestRun} {t : TestRun}
    (h : g.RanEach tools package dir env names s (before ++ t :: after)) (ht : t.call.cancels) :
    after = [] := by
  have hcalls := h.makes.undisturbed
  rw [List.map_append, List.map_cons] at hcalls
  exact List.map_eq_nil_iff.mp (hcalls.eq_nil_of_cancels ht)

/-- The tests that ran of those in a directory, and what was reported of them. The directory is
taken as far as the run was not interrupted. -/
structure Accounts (g : TestTrigger) (package dir : String) (env : Env) (entries : List DirEntry)
    (cancelled : Bool) (tests : List TestRun) (report : TestReport) : Prop where
  names_eq : tests.map TestRun.name = (testNames g.executableStart entries).take tests.length
  executables_eq : tests.map (·.call.executable) =
    (testPaths dir g.executableStart entries).take tests.length
  env_eq : ∀ t ∈ tests, t.call.env = env
  by_name : (tests.map TestRun.name).Pairwise fun a b => Text.bytes a ≤ Text.bytes b
  once : (entries.map DirEntry.name).Nodup → (tests.map TestRun.name).Nodup
  of_cancelled : cancelled → tests = []
  of_uninterrupted : cancelled = false → (∀ t ∈ tests, t.call.cancels = false) →
    tests.length = (testNames g.executableStart entries).length
  of_cancels : ∀ before t after, tests = before ++ t :: after → t.call.cancels → after = []
  package_eq : report.package = package
  reports : List.Forall₂ g.Reports tests report.results
  counted : report.passed + report.failed = tests.length

theorem RanEach.accounts
    (h : g.RanEach tools package dir env (testNames g.executableStart entries) s tests) :
    g.Accounts package dir env entries s.cancelled tests
      ⟨package, (g.runEach tools package dir env (testNames g.executableStart entries) s).result⟩ := by
  have hsub : (tests.map TestRun.name).Sublist (testNames g.executableStart entries) :=
    h.names_prefix.sublist
  constructor
  · exact h.names_eq
  · rw [testPaths, ← List.map_take, ← h.names_eq, List.map_map]
    exact List.map_congr_left fun t ht => (h.call_eq t ht).1
  · exact fun t ht => (h.call_eq t ht).2
  · exact (pairwise_bytes_testNames _ _ entries).sublist hsub
  · exact fun hn => hsub.nodup (nodup_testNames hn)
  · exact h.eq_nil_of_cancelled
  · exact h.length_eq
  · rintro before t after rfl ht
    exact h.eq_nil_of_cancels ht
  · rfl
  · rw [h.result_eq]
    exact g.reports_results tests
  · rw [TestReport.passed_add_failed, h.result_eq, List.length_map]

/-- The run is interrupted during the second of three tests, whose harness does not even start. -/
example :
    let g : TestTrigger := { installPrefix := "/opt" }
    let tools : Tools Unit :=
      { build := fun _ _ _ _ => ⟨.ok .success, false, [], ()⟩
        test := fun executable _ _ =>
          if executable = "/tests/tB" then ⟨.error (.spawn "sh" executable "PASS"), true, [], ()⟩
          else ⟨.ok ⟨"PASS", ""⟩, false, [], ()⟩
        isDirectory := fun _ _ => true
        entries := fun _ _ => .ok [] }
    (g.runEach tools "casa" "/tests" [] ["tA", "tB", "tC"] ⟨(), false⟩).result =
      [⟨"tA", .passed, "PASS"⟩,
        ⟨"tB", .failed, "Failed to run test harness 'sh' on '/tests/tB': PASS"⟩] := by
  decide +kernel

/-- How the run of the tests of a package ends: nothing runs if there is no test directory, or no
environment for tests, or the directory cannot be listed. -/
inductive Ends (g : TestTrigger) (tools : Tools σ) (c : ExecutionContext) (package : String)
    (s : RunState σ) : List TestRun → Except TestError TestReport → Prop
  | noDirectory (hd : tools.isDirectory (c.testDir package) s.world = false) :
    Ends g tools c package s [] (.ok ⟨package, []⟩)
  | noEnv (hd : tools.isDirectory (c.testDir package) s.world) {e : TestError}
    (he : c.testEnv g.installPrefix (c.testDir package) g.dataVariable = .error e) :
    Ends g tools c package s [] (.error e)
  | noListing (hd : tools.isDirectory (c.testDir package) s.world) {env : Env}
    (henv : c.testEnv g.installPrefix (c.testDir package) g.dataVariable = .ok env)
    {e : TestError} (he : tools.entries (c.testDir package) s.world = .error e) :
    Ends g tools c package s [] (.error e)
  | listed (hd : tools.isDirectory (c.testDir package) s.world) {env : Env}
    (henv : c.testEnv g.installPrefix (c.testDir package) g.dataVariable = .ok env)
    {entries : List DirEntry} (he : tools.entries (c.testDir package) s.world = .ok entries)
    {tests : List TestRun} {report : TestReport}
    (h : g.Accounts package (c.testDir package) env entries s.cancelled tests report) :
    Ends g tools c package s tests (.ok report)

/-- The calls of a run of the tests of a package are the tests that ran, and each of them is in the
report. -/
theorem run_accounts_for_every_test (g : TestTrigger) (tools : Tools σ) (c : ExecutionContext)
    (package : String) (s : RunState σ) :
    ∃ tests : List TestRun,
      (∀ calls, g.run tools.recorded c package (s.recorded calls) =
        (g.run tools c package s).recorded (calls ++ tests.map TestRun.toCall)) ∧
      (g.run tools c package s).steps = tests.map (·.call.step) ∧
      g.Ends tools c package s tests (g.run tools c package s).result := by
  cases hd : tools.isDirectory (c.testDir package) s.world with
  | false =>
    have h := ran_of_isDirectory_eq_false (g := g) hd
    refine ⟨[], h.makes.recorded_eq, h.steps_eq, ?_⟩
    rw [run_of_isDirectory_eq_false hd]
    exact .noDirectory hd
  | true =>
    cases henv : c.testEnv g.installPrefix (c.testDir package) g.dataVariable with
    | error e =>
      have h := ran_of_testEnv_eq_error hd henv
      refine ⟨[], h.makes.recorded_eq, h.steps_eq, ?_⟩
      rw [run_of_testEnv_eq_error hd henv]
      exact .noEnv hd henv
    | ok env =>
      cases he : tools.entries (c.testDir package) s.world with
      | error e =>
        have h := ran_of_entries_eq_error hd henv he
        refine ⟨[], h.makes.recorded_eq, h.steps_eq, ?_⟩
        rw [run_of_entries_eq_error hd henv he]
        exact .noListing hd henv he
      | ok entries =>
        obtain ⟨tests, hran⟩ := g.exists_ranEach tools package (c.testDir package) env
          (testNames g.executableStart entries) s
        have h := hran.ran hd henv he
        refine ⟨tests, h.makes.recorded_eq, h.steps_eq, ?_⟩
        rw [run_of_entries_eq_ok hd henv he]
        exact .listed hd henv he hran.accounts

end TestTrigger

end OrderedBuild
