import OrderedBuild.Proofs.Run.Cancellation

namespace OrderedBuild

variable {σ τ : Type} {root : String} {args packages rest : List String} {package : String}
  {reply : List Event → Except BuildError BackendStatus} {c c' : BuildCall}
  {builds builds' : List BuildCall} {r r' : Round} {rounds rounds' : List Round}
  {tested tested' : Bool} {stop stop' : Option BuildError}

def AnsweredBy (reply : List Event → Except BuildError BackendStatus) (builds : List BuildCall) :
    Prop :=
  ∀ before c after, builds = before ++ c :: after →
    c.answer = reply (before.map BuildCall.step ++ [c.step])

theorem answeredBy_nil : AnsweredBy reply [] := by
  simp [AnsweredBy]

theorem answeredBy_cons_iff :
    AnsweredBy reply (c :: builds) ↔
      c.answer = reply [c.step] ∧ AnsweredBy (fun steps => reply (c.step :: steps)) builds := by
  constructor
  · intro h
    refine ⟨h [] c builds rfl, ?_⟩
    rintro before b after rfl
    exact h (c :: before) b after rfl
  · rintro ⟨hc, hbuilds⟩ before b after h
    cases before with
    | nil =>
      obtain ⟨rfl, -⟩ : c = b ∧ builds = after := by simpa using h
      exact hc
    | cons a before =>
      obtain ⟨rfl, rfl⟩ : c = a ∧ builds = before ++ b :: after := by simpa using h
      exact hbuilds before b after rfl

instance decidableAnsweredBy (reply : List Event → Except BuildError BackendStatus) :
    (builds : List BuildCall) → Decidable (AnsweredBy reply builds)
  | [] => .isTrue answeredBy_nil
  | c :: builds =>
    have := decidableAnsweredBy (fun steps => reply (c.step :: steps)) builds
    decidable_of_iff _ answeredBy_cons_iff.symm

structure InTurn (root : String) (args : List String)
    (reply : List Event → Except BuildError BackendStatus) (builds : List BuildCall) : Prop where
  dir_eq : ∀ c ∈ builds, c.dir = Path.join root c.package
  args_eq : ∀ c ∈ builds, c.args = args
  uninterrupted : ∀ c ∈ builds, c.cancels = false
  answered : AnsweredBy reply builds

namespace InTurn

theorem head_eq (h : InTurn root args reply (c :: builds))
    (h' : InTurn root args reply (c' :: builds')) (hp : c.package = c'.package) : c = c' := by
  have hdir : c.dir = c'.dir := by
    rw [h.dir_eq c List.mem_cons_self, h'.dir_eq c' List.mem_cons_self, hp]
  have hargs : c.args = c'.args := by
    rw [h.args_eq c List.mem_cons_self, h'.args_eq c' List.mem_cons_self]
  have hcancels : c.cancels = c'.cancels := by
    rw [h.uninterrupted c List.mem_cons_self, h'.uninterrupted c' List.mem_cons_self]
  have hstep : c.step = c'.step := by
    unfold BuildCall.step
    rw [hp, hdir, hargs]
  have hanswer : c.answer = c'.answer := by
    rw [(answeredBy_cons_iff.mp h.answered).1, (answeredBy_cons_iff.mp h'.answered).1, hstep]
  cases c
  cases c'
  simp_all

theorem tail (h : InTurn root args reply (c :: builds)) :
    InTurn root args (fun steps => reply (c.step :: steps)) builds := by
  constructor
  · exact fun b hb => h.dir_eq b (List.mem_cons_of_mem c hb)
  · exact fun b hb => h.args_eq b (List.mem_cons_of_mem c hb)
  · exact fun b hb => h.uninterrupted b (List.mem_cons_of_mem c hb)
  · exact (answeredBy_cons_iff.mp h.answered).2

end InTurn

/-- The error with which a build ends a run, whatever is tested. -/
def BuildCall.failure? (c : BuildCall) : Option BuildError :=
  (BuildJob.stop? c.package c.answer).map Prod.snd

theorem Round.outcome_of_uninterrupted (hc : r.cancels = false) :
    r.outcome tested = r.build.failure?.elim (.ok r.report) .error := by
  have hpackage : r.package = r.build.package := rfl
  unfold outcome BuildCall.failure?
  rw [hc, Bool.and_false, hpackage]
  cases BuildJob.stop? r.build.package r.build.answer with
  | none => rfl
  | some stop => rfl

theorem Round.cancels_build_eq_false (hc : r.cancels = false) : r.build.cancels = false := by
  cases h : r.build.cancels with
  | false => rfl
  | true => exact absurd (cancels_of_build h) (by simp [hc])

namespace Course

theorem eq_of_nil {cancelled : Bool} (h : Course tested cancelled [] rounds stop) :
    rounds = [] ∧ stop = none := by
  cases h with
  | finished => exact ⟨rfl, rfl⟩

theorem exists_eq_cons (h : Course tested false (package :: rest) rounds stop)
    (hc : ∀ r ∈ rounds, r.cancels = false) :
    ∃ r more, rounds = r :: more ∧ r.build.package = package ∧
      ((∃ e, r.build.failure? = some e ∧ more = [] ∧ stop = some e) ∨
        (r.build.failure? = none ∧ Course tested false rest more stop)) := by
  cases h with
  | @stopped r e _ he =>
    have hr := hc r List.mem_cons_self
    refine ⟨r, [], rfl, rfl, .inl ⟨e, ?_, rfl, rfl⟩⟩
    rw [Round.outcome_of_uninterrupted hr] at he
    cases hf : r.build.failure? with
    | none => simp [hf] at he
    | some e' => simpa [hf] using he
  | @next r _ more _ hok hmore =>
    have hr := hc r List.mem_cons_self
    refine ⟨r, more, rfl, rfl, .inr ⟨?_, ?_⟩⟩
    · rw [Round.outcome_of_uninterrupted hr] at hok
      cases hf : r.build.failure? with
      | none => rfl
      | some e => simp [hf] at hok
    · rwa [hr] at hmore

/-- Two runs of a plan by one build tool go the same course, tested or not. -/
theorem builds_eq (h : Course tested false packages rounds stop)
    (h' : Course tested' false packages rounds' stop')
    (hc : ∀ r ∈ rounds, r.cancels = false) (hc' : ∀ r ∈ rounds', r.cancels = false)
    (hb : InTurn root args reply (rounds.map Round.build))
    (hb' : InTurn root args reply (rounds'.map Round.build)) :
    rounds.map Round.build = rounds'.map Round.build ∧ stop = stop' := by
  induction packages generalizing reply rounds rounds' stop stop' with
  | nil =>
    obtain ⟨rfl, rfl⟩ := h.eq_of_nil
    obtain ⟨rfl, rfl⟩ := h'.eq_of_nil
    exact ⟨rfl, rfl⟩
  | cons package rest ih =>
    obtain ⟨r, more, rfl, hp, hend⟩ := h.exists_eq_cons hc
    obtain ⟨r', more', rfl, hp', hend'⟩ := h'.exists_eq_cons hc'
    rw [List.map_cons] at hb hb'
    -- The same calls came before, so the tool answers the same.
    have hbuild : r.build = r'.build := hb.head_eq hb' (hp.trans hp'.symm)
    have htail := hb.tail
    have htail' := hb'.tail
    rw [hbuild] at hend htail
    rw [List.map_cons, List.map_cons, hbuild]
    rcases hend with ⟨e, hf, rfl, rfl⟩ | ⟨hf, hmore⟩
    · rcases hend' with ⟨e', hf', rfl, rfl⟩ | ⟨hf', -⟩
      · exact ⟨rfl, hf.symm.trans hf'⟩
      · exact absurd (hf.symm.trans hf') (by simp)
    · rcases hend' with ⟨e', hf', -, -⟩ | ⟨-, hmore'⟩
      · exact absurd (hf.symm.trans hf') (by simp)
      · obtain ⟨hmap, hstop⟩ := ih hmore hmore' (fun r hr => hc r (List.mem_cons_of_mem _ hr))
          (fun r hr => hc' r (List.mem_cons_of_mem _ hr)) htail htail'
        exact ⟨by rw [hmap], hstop⟩

end Course

def Event.isOfBuild : Event → Bool
  | .started .. => true
  | .build .. => true
  | .built _ => true
  | _ => false

theorem Stretch.filter_isOfBuild_steps {α : Type} (r : Stretch σ α) :
    r.steps.filter Event.isOfBuild = r.events.filter Event.isOfBuild := by
  unfold Stretch.steps
  rw [List.filter_filter]
  apply List.filter_congr
  intro e _
  cases e with
  | started index total package => rfl
  | build package dir args => rfl
  | built package => rfl
  | test executable env => rfl
  | testsFinished report => rfl
  | said message => rfl

namespace Round

theorem filter_isOfBuild_steps (index total : Nat) (r : Round) :
    (r.steps index total).filter Event.isOfBuild =
      .started index total r.build.package :: r.build.step ::
        if r.build.answer = .ok .success then [.built r.build.package] else [] := by
  have htests : (r.tests.map (·.call.step)).filter Event.isOfBuild = [] := by
    simp [TestCall.step, Event.isOfBuild]
  have hreport : (r.report.toList.map Event.testsFinished).filter Event.isOfBuild = [] := by
    simp [Event.isOfBuild]
  rw [steps, List.filter_cons_of_pos rfl, List.filter_cons_of_pos rfl]
  by_cases hs : r.Succeeded
  · have hanswer : r.build.answer = .ok .success := hs
    rw [if_pos hs, if_pos hanswer, List.cons_append, List.filter_cons_of_pos rfl,
      List.filter_append, htests, hreport]
    rfl
  · have hanswer : r.build.answer ≠ .ok .success := hs
    rw [if_neg hs, if_neg hanswer]
    rfl

theorem filter_isOfBuild_stepsFrom (h : rounds.map Round.build = rounds'.map Round.build)
    (total index : Nat) :
    (stepsFrom total index rounds).filter Event.isOfBuild =
      (stepsFrom total index rounds').filter Event.isOfBuild := by
  induction rounds generalizing index rounds' with
  | nil =>
    obtain rfl := List.map_eq_nil_iff.mp h.symm
    rfl
  | cons r rounds ih =>
    obtain ⟨r', more', rfl, hr, hrounds⟩ := List.map_eq_cons_iff.mp h.symm
    rw [stepsFrom, stepsFrom, List.filter_append, List.filter_append, filter_isOfBuild_steps,
      filter_isOfBuild_steps, hr, ih hrounds.symm]

end Round

namespace BuildJob

def calls (j : BuildJob) (tools : Tools σ) (plan : BuildPlan) (s : RunState σ) : List Call :=
  (j.run tools.recorded plan (s.recorded [])).state.world.2

/-- A run that nothing interrupts, of a build tool that goes by the calls of it so far. -/
structure Steady (j : BuildJob) (tools : Tools σ) (plan : BuildPlan) (s : RunState σ)
    (reply : List Event → Except BuildError BackendStatus) : Prop where
  begins : s.cancelled = false
  uninterrupted : ∀ c ∈ j.calls tools plan s, c.cancels = false
  answered : AnsweredBy reply ((j.calls tools plan s).filterMap Call.build?)

variable {j j' : BuildJob} {tools : Tools σ} {tools' : Tools τ} {plan : BuildPlan}
  {s : RunState σ} {s' : RunState τ}

theorem Unrolls.calls_eq
    (h : j.Unrolls tools plan.packages.length 0 plan.packages .empty s rounds stop) :
    j.calls tools plan s = rounds.flatMap Round.calls := by
  have hrun : j.run tools.recorded plan (s.recorded []) = _ := h.makes.recorded_eq []
  rw [calls, hrun]
  rfl

theorem Unrolls.builds_eq
    (h : j.Unrolls tools plan.packages.length 0 plan.packages .empty s rounds stop) :
    (j.calls tools plan s).filterMap Call.build? = rounds.map Round.build := by
  rw [h.calls_eq, filterMap_build?_flatMap_calls]

theorem Unrolls.map_built_result
    (h : j.Unrolls tools plan.packages.length 0 plan.packages .empty s rounds stop) :
    (j.run tools plan s).result.map BuildSummary.built =
      stop.elim (.ok ((rounds.map Round.build).map BuildCall.package)) .error := by
  have hresult : (j.run tools plan s).result = _ := h.result_eq
  rw [hresult]
  cases stop with
  | none =>
    have hbuilt : (BuildSummary.empty.addRounds rounds).built = rounds.map Round.package :=
      List.nil_append _
    simp only [Option.elim_none, Except.map, hbuilt, List.map_map]
    rfl
  | some e => rfl

theorem Steady.cancels_eq_false (hs : j.Steady tools plan s reply)
    (h : j.Unrolls tools plan.packages.length 0 plan.packages .empty s rounds stop) :
    ∀ r ∈ rounds, r.cancels = false := by
  intro r hr
  apply List.any_eq_false.mpr
  intro c hc
  have hmem : c ∈ j.calls tools plan s := by
    rw [h.calls_eq]
    exact List.mem_flatMap.mpr ⟨r, hr, hc⟩
  simp [hs.uninterrupted c hmem]

theorem Steady.inTurn (hs : j.Steady tools plan s reply)
    (h : j.Unrolls tools plan.packages.length 0 plan.packages .empty s rounds stop) :
    InTurn j.context.sourceRoot j.args reply (rounds.map Round.build) := by
  constructor
  · exact List.forall_mem_map.mpr fun r hr => (h.fits r hr).dir_eq
  · exact List.forall_mem_map.mpr fun r hr => (h.fits r hr).args_eq
  · exact List.forall_mem_map.mpr fun r hr => Round.cancels_build_eq_false (hs.cancels_eq_false h r hr)
  · rw [← h.builds_eq]
    exact hs.answered

/-- Two runs that are not interrupted make the same build calls, tell the same of them, and come to
the same, whatever either of them tests and whatever becomes of the tests. -/
theorem run_builds_alike_whatever_is_tested (hroot : j.context.sourceRoot = j'.context.sourceRoot)
    (hargs : j.args = j'.args) (hs : j.Steady tools plan s reply)
    (hs' : j'.Steady tools' plan s' reply) :
    (j.calls tools plan s).filterMap Call.build? =
        (j'.calls tools' plan s').filterMap Call.build? ∧
      (j.run tools plan s).events.filter Event.isOfBuild =
        (j'.run tools' plan s').events.filter Event.isOfBuild ∧
      (j.run tools plan s).result.map BuildSummary.built =
        (j'.run tools' plan s').result.map BuildSummary.built := by
  obtain ⟨rounds, stop, h⟩ :=
    j.exists_unrolls tools plan.packages.length 0 plan.packages .empty s
  obtain ⟨rounds', stop', h'⟩ :=
    j'.exists_unrolls tools' plan.packages.length 0 plan.packages .empty s'
  have hcourse := h.course
  have hcourse' := h'.course
  rw [hs.begins] at hcourse
  rw [hs'.begins] at hcourse'
  have hturn := hs.inTurn h
  rw [hroot, hargs] at hturn
  obtain ⟨hbuilds, hstop⟩ := hcourse.builds_eq hcourse' (hs.cancels_eq_false h)
    (hs'.cancels_eq_false h') hturn (hs'.inTurn h')
  have hsteps : (j.run tools plan s).steps = _ := h.steps_eq
  have hsteps' : (j'.run tools' plan s').steps = _ := h'.steps_eq
  refine ⟨?_, ?_, ?_⟩
  · rw [h.builds_eq, h'.builds_eq, hbuilds]
  · rw [← Stretch.filter_isOfBuild_steps, ← Stretch.filter_isOfBuild_steps, hsteps, hsteps',
      Round.filter_isOfBuild_stepsFrom hbuilds]
  · rw [h.map_built_result, h'.map_built_result, hbuilds, hstop]

def thirdFails (builds : Nat) : Except BuildError BackendStatus :=
  if builds = 3 then .ok (.failed 2) else .ok .success

def countingTools : Tools Nat where
  build _ _ _ built := ⟨thirdFails (built + 1), false, [], built + 1⟩
  test executable _ built := ⟨.error (.unavailable executable), false, [], built⟩
  isDirectory _ _ := true
  entries _ _ := .ok [⟨"tPlain", .file⟩, ⟨"data.in", .file⟩]

def plainJob : BuildJob :=
  ⟨{ sourceRoot := "/src" }, ["install"], none⟩

def testingJob : BuildJob :=
  { plainJob with tests := some { installPrefix := "/opt" } }

def fourPackages : BuildPlan :=
  ⟨["base", "left", "right", "top"]⟩

theorem run_builds_alike_when_no_test_starts :
    plainJob.Steady countingTools fourPackages ⟨0, false⟩ (thirdFails ·.length) ∧
    testingJob.Steady countingTools fourPackages ⟨0, false⟩ (thirdFails ·.length) ∧
    (plainJob.calls countingTools fourPackages ⟨0, false⟩).length = 3 ∧
    (testingJob.calls countingTools fourPackages ⟨0, false⟩).length = 5 ∧
    (plainJob.calls countingTools fourPackages ⟨0, false⟩).filterMap Call.build? =
      (testingJob.calls countingTools fourPackages ⟨0, false⟩).filterMap Call.build? ∧
    (plainJob.run countingTools fourPackages ⟨0, false⟩).events.filter Event.isOfBuild =
      (testingJob.run countingTools fourPackages ⟨0, false⟩).events.filter Event.isOfBuild ∧
    (plainJob.run countingTools fourPackages ⟨0, false⟩).result.map BuildSummary.built =
      (testingJob.run countingTools fourPackages ⟨0, false⟩).result.map BuildSummary.built := by
  have hs : plainJob.Steady countingTools fourPackages ⟨0, false⟩ (thirdFails ·.length) :=
    ⟨rfl, by decide +kernel, by decide +kernel⟩
  have hs' : testingJob.Steady countingTools fourPackages ⟨0, false⟩ (thirdFails ·.length) :=
    ⟨rfl, by decide +kernel, by decide +kernel⟩
  exact ⟨hs, hs', by decide +kernel, by decide +kernel,
    run_builds_alike_whatever_is_tested rfl rfl hs hs'⟩

end BuildJob

end OrderedBuild
