import OrderedBuild.Proofs.Run.Calls

namespace OrderedBuild

variable {σ : Type}

structure TestRun where
  name : String
  call : TestCall

def TestRun.toCall (t : TestRun) : Call :=
  .test t.call

def TestRun.result (g : TestTrigger) (t : TestRun) : TestResult :=
  g.resultOf t.name t.call.answer

namespace TestTrigger

variable {g : TestTrigger} {tools : Tools σ} {c : ExecutionContext} {package : String}
  {s : RunState σ}

def testEvents (g : TestTrigger) (tools : Tools σ) (dir name : String) (env : Env)
    (s : RunState σ) : List Event :=
  let a := tools.test (Path.join dir name) env s.world
  .test (Path.join dir name) env :: a.said.map .said ++ notes a.value (g.resultOf name a.value)

/-- The tests that ran of those named: from the front, each as its name says. -/
structure RanEach (g : TestTrigger) (tools : Tools σ) (package dir : String) (env : Env)
    (names : List String) (s : RunState σ) (tests : List TestRun) : Prop where
  makes : (g.runEach tools package dir env names s).Makes
    (fun calls => g.runEach tools.recorded package dir env names (s.recorded calls))
    s.cancelled (tests.map TestRun.toCall)
  names_prefix : tests.map TestRun.name <+: names
  call_eq : ∀ t ∈ tests, t.call.executable = Path.join dir t.name ∧ t.call.env = env
  steps_eq : (g.runEach tools package dir env names s).steps = tests.map (·.call.step)
  result_eq : (g.runEach tools package dir env names s).result = tests.map (TestRun.result g)

section RanEach

variable {dir name : String} {env : Env} {names : List String} {tests : List TestRun}

theorem ranEach_nil : g.RanEach tools package dir env [] s [] :=
  ⟨Stretch.makes_nil [] [] s, List.nil_prefix, by simp, rfl, rfl⟩

theorem runEach_cons_of_cancelled (hc : s.cancelled) :
    g.runEach tools package dir env (name :: names) s =
      ⟨[.log .warn ("Tests for " ++ package ++ " interrupted")], [], s⟩ := by
  rw [runEach, if_pos hc]

theorem runEach_cons (hc : ¬ s.cancelled) :
    g.runEach tools package dir env (name :: names) s =
      let t := tools.testCall (Path.join dir name) env s.world
      let rest := g.runEach tools package dir env names
        ((tools.test (Path.join dir name) env s.world).leave s)
      ⟨g.testEvents tools dir name env s ++ rest.events, g.resultOf name t.answer :: rest.result,
        rest.state⟩ := by
  rw [runEach, if_neg hc]
  rfl

theorem filter_isStep_testEvents :
    (g.testEvents tools dir name env s).filter Event.isStep =
      [(tools.testCall (Path.join dir name) env s.world).step] := by
  have hnotes : ∀ answer r, (notes answer r).filter Event.isStep = [] := fun answer r => by
    cases answer with
    | ok o => simp [notes]
    | error e => simp [notes]
  rw [testEvents, List.filter_append, List.filter_cons_of_pos rfl, filter_isStep_map_said, hnotes]
  rfl

theorem ranEach_cons_of_cancelled (hc : s.cancelled) :
    g.RanEach tools package dir env (name :: names) s [] := by
  constructor
  · have hc' : ∀ calls, (s.recorded calls).cancelled := fun _ => hc
    simp only [runEach_cons_of_cancelled hc, runEach_cons_of_cancelled (hc' _)]
    exact Stretch.makes_nil _ [] s
  · exact List.nil_prefix
  · simp
  · rw [runEach_cons_of_cancelled hc]
    rfl
  · rw [runEach_cons_of_cancelled hc]
    rfl

theorem RanEach.cons (hc : ¬ s.cancelled)
    (h : g.RanEach tools package dir env names
      ((tools.test (Path.join dir name) env s.world).leave s) tests) :
    g.RanEach tools package dir env (name :: names) s
      (⟨name, tools.testCall (Path.join dir name) env s.world⟩ :: tests) := by
  constructor
  · have hmakes := h.makes.cons (c := .test (tools.testCall (Path.join dir name) env s.world)) hc rfl
    have hrecorded : (fun calls => g.runEach tools.recorded package dir env (name :: names)
        (s.recorded calls)) = _ := funext fun calls => by
      have hc' : ¬ (s.recorded calls).cancelled := hc
      exact runEach_cons hc'
    rw [hrecorded, runEach_cons hc]
    exact hmakes.told (g.testEvents tools dir name env s ++ ·) (_ :: ·)
  · exact List.cons_prefix_cons.mpr ⟨rfl, h.names_prefix⟩
  · exact List.forall_mem_cons.mpr ⟨⟨rfl, rfl⟩, h.call_eq⟩
  · have hsteps := h.steps_eq
    rw [runEach_cons hc]
    unfold Stretch.steps at hsteps ⊢
    rw [List.filter_append, filter_isStep_testEvents, hsteps]
    rfl
  · rw [runEach_cons hc, List.map_cons, ← h.result_eq]
    rfl

end RanEach

theorem exists_ranEach (g : TestTrigger) (tools : Tools σ) (package dir : String) (env : Env)
    (names : List String) (s : RunState σ) :
    ∃ tests, g.RanEach tools package dir env names s tests := by
  induction names generalizing s with
  | nil => exact ⟨[], ranEach_nil⟩
  | cons name names ih =>
    by_cases hc : s.cancelled
    · exact ⟨[], ranEach_cons_of_cancelled hc⟩
    · obtain ⟨tests, h⟩ := ih ((tools.test (Path.join dir name) env s.world).leave s)
      exact ⟨_, h.cons hc⟩

theorem run_of_isDirectory_eq_false
    (hd : tools.isDirectory (c.testDir package) s.world = false) :
    g.run tools c package s =
      ⟨[.log .debug ("No test directory for " ++ package ++ " at " ++ c.testDir package)],
        .ok ⟨package, []⟩, s⟩ := by
  simp [run, hd]

theorem run_of_testEnv_eq_error (hd : tools.isDirectory (c.testDir package) s.world)
    {e : TestError} (he : c.testEnv g.installPrefix (c.testDir package) g.dataVariable = .error e) :
    g.run tools c package s = ⟨[], .error e, s⟩ := by
  simp [run, hd, he]

theorem run_of_entries_eq_error (hd : tools.isDirectory (c.testDir package) s.world)
    {env : Env} (henv : c.testEnv g.installPrefix (c.testDir package) g.dataVariable = .ok env)
    {e : TestError} (he : tools.entries (c.testDir package) s.world = .error e) :
    g.run tools c package s = ⟨[], .error e, s⟩ := by
  simp [run, hd, henv, he]

theorem run_of_entries_eq_ok (hd : tools.isDirectory (c.testDir package) s.world)
    {env : Env} (henv : c.testEnv g.installPrefix (c.testDir package) g.dataVariable = .ok env)
    {entries : List DirEntry} (he : tools.entries (c.testDir package) s.world = .ok entries) :
    g.run tools c package s =
      let names := testNames g.executableStart entries
      let each := g.runEach tools package (c.testDir package) env names s
      ⟨.log .info ("Running " ++ toString names.length ++ " tests for " ++ package) ::
          each.events, .ok ⟨package, each.result⟩, each.state⟩ := by
  simp [run, hd, henv, he]

/-- A test that lies in the test directory of a package by a listing of that directory. -/
def Finds (g : TestTrigger) (tools : Tools σ) (c : ExecutionContext) (package : String)
    (t : TestRun) : Prop :=
  ∃ world entries, tools.entries (c.testDir package) world = .ok entries ∧
    t.name ∈ testNames g.executableStart entries ∧
    t.call.executable = Path.join (c.testDir package) t.name

/-- The tests that ran of a package, each reported with what its call answered. -/
structure Ran (g : TestTrigger) (tools : Tools σ) (c : ExecutionContext) (package : String)
    (s : RunState σ) (tests : List TestRun) : Prop where
  makes : (g.run tools c package s).Makes
    (fun calls => g.run tools.recorded c package (s.recorded calls))
    s.cancelled (tests.map TestRun.toCall)
  finds : ∀ t ∈ tests, g.Finds tools c package t
  steps_eq : (g.run tools c package s).steps = tests.map (·.call.step)
  result : (g.run tools c package s).result = .ok ⟨package, tests.map (TestRun.result g)⟩ ∨
    tests = [] ∧ ∃ e, (g.run tools c package s).result = .error e

theorem ran_nil {events : List Event} {result : Except TestError TestReport}
    (h : g.run tools c package s = ⟨events, result, s⟩)
    (hr : ∀ calls, g.run tools.recorded c package (s.recorded calls) =
      ⟨events, result, s.recorded calls⟩)
    (hevents : events.filter Event.isStep = [])
    (hresult : result = .ok ⟨package, []⟩ ∨ ∃ e, result = .error e) :
    g.Ran tools c package s [] := by
  constructor
  · simp only [h, hr]
    exact Stretch.makes_nil events result s
  · simp
  · rw [h]
    exact hevents
  · rw [h]
    exact hresult.imp_right fun he => ⟨rfl, he⟩

theorem ran_of_isDirectory_eq_false
    (hd : tools.isDirectory (c.testDir package) s.world = false) : g.Ran tools c package s [] :=
  ran_nil (run_of_isDirectory_eq_false hd) (fun _ => run_of_isDirectory_eq_false hd) rfl (.inl rfl)

theorem ran_of_testEnv_eq_error (hd : tools.isDirectory (c.testDir package) s.world)
    {e : TestError} (he : c.testEnv g.installPrefix (c.testDir package) g.dataVariable = .error e) :
    g.Ran tools c package s [] := by
  have hd' : ∀ calls, tools.recorded.isDirectory (c.testDir package) (s.recorded calls).world :=
    fun _ => hd
  exact ran_nil (run_of_testEnv_eq_error hd he) (fun calls => run_of_testEnv_eq_error (hd' calls) he)
    rfl (.inr ⟨e, rfl⟩)

theorem ran_of_entries_eq_error (hd : tools.isDirectory (c.testDir package) s.world)
    {env : Env} (henv : c.testEnv g.installPrefix (c.testDir package) g.dataVariable = .ok env)
    {e : TestError} (he : tools.entries (c.testDir package) s.world = .error e) :
    g.Ran tools c package s [] := by
  have hd' : ∀ calls, tools.recorded.isDirectory (c.testDir package) (s.recorded calls).world :=
    fun _ => hd
  exact ran_nil (run_of_entries_eq_error hd henv he)
    (fun calls => run_of_entries_eq_error (hd' calls) henv he) rfl (.inr ⟨e, rfl⟩)

theorem RanEach.ran {env : Env} {entries : List DirEntry} {tests : List TestRun}
    (h : g.RanEach tools package (c.testDir package) env (testNames g.executableStart entries) s
      tests)
    (hd : tools.isDirectory (c.testDir package) s.world)
    (henv : c.testEnv g.installPrefix (c.testDir package) g.dataVariable = .ok env)
    (he : tools.entries (c.testDir package) s.world = .ok entries) :
    g.Ran tools c package s tests := by
  constructor
  · have hrecorded : (fun calls => g.run tools.recorded c package (s.recorded calls)) = _ :=
      funext fun calls => by
        have hd' : tools.recorded.isDirectory (c.testDir package) (s.recorded calls).world := hd
        exact run_of_entries_eq_ok hd' henv he
    rw [hrecorded, run_of_entries_eq_ok hd henv he]
    exact h.makes.told (Event.log .info ("Running " ++
      toString (testNames g.executableStart entries).length ++ " tests for " ++ package) :: ·)
      fun results => Except.ok (TestReport.mk package results)
  · intro t ht
    have hname := h.names_prefix.subset (List.mem_map_of_mem ht)
    exact ⟨s.world, entries, he, hname, (h.call_eq t ht).1⟩
  · rw [run_of_entries_eq_ok hd henv he]
    exact h.steps_eq
  · rw [run_of_entries_eq_ok hd henv he, ← h.result_eq]
    exact .inl rfl

theorem exists_ran (g : TestTrigger) (tools : Tools σ) (c : ExecutionContext) (package : String)
    (s : RunState σ) : ∃ tests, g.Ran tools c package s tests := by
  cases hd : tools.isDirectory (c.testDir package) s.world with
  | false => exact ⟨[], ran_of_isDirectory_eq_false hd⟩
  | true =>
    cases henv : c.testEnv g.installPrefix (c.testDir package) g.dataVariable with
    | error e => exact ⟨[], ran_of_testEnv_eq_error hd henv⟩
    | ok env =>
      cases he : tools.entries (c.testDir package) s.world with
      | error e => exact ⟨[], ran_of_entries_eq_error hd henv he⟩
      | ok entries =>
        obtain ⟨tests, h⟩ := g.exists_ranEach tools package (c.testDir package) env
          (testNames g.executableStart entries) s
        exact ⟨tests, h.ran hd henv he⟩

end TestTrigger

namespace BuildJob

variable {j : BuildJob} {tools : Tools σ} {package : String} {s : RunState σ}

theorem testPackage_of_none (hj : j.tests = none) :
    j.testPackage tools package s = ⟨[], none, s⟩ := by
  simp [testPackage, hj]

theorem testPackage_of_ok {g : TestTrigger} (hj : j.tests = some g) {report : TestReport}
    (h : (g.run tools j.context package s).result = .ok report) :
    j.testPackage tools package s =
      ⟨.log .info ("Testing package: " ++ package) ::
          (g.run tools j.context package s).events ++ [.testsFinished report],
        some report, (g.run tools j.context package s).state⟩ := by
  simp [testPackage, hj, h]

theorem testPackage_of_error {g : TestTrigger} (hj : j.tests = some g) {e : TestError}
    (h : (g.run tools j.context package s).result = .error e) :
    j.testPackage tools package s =
      ⟨.log .info ("Testing package: " ++ package) ::
          (g.run tools j.context package s).events ++
          [.log .warn ("Could not run tests for " ++ package ++ ": " ++ e.message)],
        none, (g.run tools j.context package s).state⟩ := by
  simp [testPackage, hj, h]

structure Tested (j : BuildJob) (tools : Tools σ) (package : String) (s : RunState σ)
    (tests : List TestRun) : Prop where
  makes : (j.testPackage tools package s).Makes
    (fun calls => j.testPackage tools.recorded package (s.recorded calls))
    s.cancelled (tests.map TestRun.toCall)
  steps_eq : (j.testPackage tools package s).steps = tests.map (·.call.step) ++
    (j.testPackage tools package s).result.toList.map .testsFinished
  finds : ∀ t ∈ tests, ∃ g, j.tests = some g ∧ g.Finds tools j.context package t
  report_eq : ∀ report, (j.testPackage tools package s).result = some report →
    ∃ g, j.tests = some g ∧ report = ⟨package, tests.map (TestRun.result g)⟩
  isSome_report : tests ≠ [] → (j.testPackage tools package s).result.isSome

theorem tested_of_none (hj : j.tests = none) : j.Tested tools package s [] := by
  have hrecorded : (fun calls => j.testPackage tools.recorded package (s.recorded calls)) = _ :=
    funext fun calls => testPackage_of_none hj
  constructor
  · rw [hrecorded, testPackage_of_none hj]
    exact Stretch.makes_nil [] none s
  · simp [testPackage_of_none hj, Stretch.steps]
  · simp
  · simp [testPackage_of_none hj]
  · simp

theorem tested_of_ok {g : TestTrigger} {tests : List TestRun} {report : TestReport}
    (hj : j.tests = some g) (h : g.Ran tools j.context package s tests)
    (hok : (g.run tools j.context package s).result = .ok report)
    (hreport : report = ⟨package, tests.map (TestRun.result g)⟩) :
    j.Tested tools package s tests := by
  constructor
  · have hrecorded : (fun calls => j.testPackage tools.recorded package (s.recorded calls)) = _ :=
      funext fun calls => testPackage_of_ok hj ((h.makes.result_eq calls).trans hok)
    rw [hrecorded, testPackage_of_ok hj hok]
    exact h.makes.told
      (.log .info ("Testing package: " ++ package) :: · ++ [.testsFinished report])
      fun _ => some report
  · have hsteps := h.steps_eq
    rw [testPackage_of_ok hj hok]
    unfold Stretch.steps at hsteps ⊢
    rw [List.filter_append, List.filter_cons_of_neg (by simp), hsteps]
    rfl
  · exact fun t ht => ⟨g, hj, h.finds t ht⟩
  · rw [testPackage_of_ok hj hok]
    exact fun report' hr => ⟨g, hj, (Option.some.inj hr).symm.trans hreport⟩
  · simp [testPackage_of_ok hj hok]

theorem tested_of_error {g : TestTrigger} {e : TestError} (hj : j.tests = some g)
    (h : g.Ran tools j.context package s [])
    (he : (g.run tools j.context package s).result = .error e) :
    j.Tested tools package s [] := by
  constructor
  · have hrecorded : (fun calls => j.testPackage tools.recorded package (s.recorded calls)) = _ :=
      funext fun calls => testPackage_of_error hj ((h.makes.result_eq calls).trans he)
    rw [hrecorded, testPackage_of_error hj he]
    exact h.makes.told (.log .info ("Testing package: " ++ package) :: · ++
      [.log .warn ("Could not run tests for " ++ package ++ ": " ++ e.message)]) fun _ => none
  · have hsteps := h.steps_eq
    unfold Stretch.steps at hsteps ⊢
    simp [testPackage_of_error hj he, hsteps]
  · simp
  · simp [testPackage_of_error hj he]
  · simp

theorem exists_tested (j : BuildJob) (tools : Tools σ) (package : String) (s : RunState σ) :
    ∃ tests, j.Tested tools package s tests := by
  cases hj : j.tests with
  | none => exact ⟨[], tested_of_none hj⟩
  | some g =>
    obtain ⟨tests, h⟩ := g.exists_ran tools j.context package s
    rcases h.result with hok | ⟨rfl, e, he⟩
    · exact ⟨tests, tested_of_ok hj h hok rfl⟩
    · exact ⟨[], tested_of_error hj h he⟩

end BuildJob

end OrderedBuild
