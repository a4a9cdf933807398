import OrderedBuild.Proofs.Run.Steps
import OrderedBuild.Proofs.Splits

namespace OrderedBuild

structure BuildCall where
  package : String
  dir : String
  args : List String
  answer : Except BuildError BackendStatus
  /-- The run was interrupted during the call. -/
  cancels : Bool

structure TestCall where
  executable : String
  env : Env
  answer : Except TestError TestOutput
  /-- The run was interrupted during the call. -/
  cancels : Bool

inductive Call where
  | build (c : BuildCall)
  | test (c : TestCall)

def Call.build? : Call → Option BuildCall
  | .build c => some c
  | .test _ => none

def Call.cancels : Call → Bool
  | .build c => c.cancels
  | .test c => c.cancels

def BuildCall.step (c : BuildCall) : Event :=
  .build c.package c.dir c.args

def TestCall.step (c : TestCall) : Event :=
  .test c.executable c.env

variable {σ α β : Type}

namespace Tools

def buildCall (tools : Tools σ) (package dir : String) (args : List String) (world : σ) :
    BuildCall :=
  let a := tools.build package dir args world
  ⟨package, dir, args, a.value, a.cancels⟩

def testCall (tools : Tools σ) (executable : String) (env : Env) (world : σ) : TestCall :=
  let a := tools.test executable env world
  ⟨executable, env, a.value, a.cancels⟩

/-- The same tools, with a record of their calls beside their own state. -/
def recorded (tools : Tools σ) : Tools (σ × List Call) where
  build package dir args w :=
    let a := tools.build package dir args w.1
    ⟨a.value, a.cancels, a.said, a.next, w.2 ++ [.build (tools.buildCall package dir args w.1)]⟩
  test executable env w :=
    let a := tools.test executable env w.1
    ⟨a.value, a.cancels, a.said, a.next, w.2 ++ [.test (tools.testCall executable env w.1)]⟩
  isDirectory path w := tools.isDirectory path w.1
  entries path w := tools.entries path w.1

end Tools

def RunState.recorded (s : RunState σ) (calls : List Call) : RunState (σ × List Call) :=
  ⟨(s.world, calls), s.cancelled⟩

def Stretch.recorded (r : Stretch σ α) (calls : List Call) : Stretch (σ × List Call) α :=
  ⟨r.events, r.result, r.state.recorded calls⟩

/-- Whether an event is a call or a report, and not something said. -/
def Event.isStep : Event → Bool
  | .said _ => false
  | _ => true

@[simp] theorem Event.isStep_log (level : Level) (text : String) :
    (Event.log level text).isStep = false := rfl

@[simp] theorem filter_isStep_map_said (messages : List Message) :
    (messages.map Event.said).filter Event.isStep = [] := by
  simp [Event.isStep]

def Stretch.steps (r : Stretch σ α) : List Event :=
  r.events.filter Event.isStep

/-- No call begins once the run is cancelled. -/
def Undisturbed (cancelled : Bool) (calls : List Call) : Prop :=
  ∀ before c after, calls = before ++ c :: after →
    cancelled = false ∧ ∀ b ∈ before, b.cancels = false

namespace Undisturbed

variable {cancelled : Bool} {c : Call} {calls more before after : List Call}

theorem nil (cancelled : Bool) : Undisturbed cancelled [] := by
  simp [Undisturbed]

theorem append (h : Undisturbed cancelled calls)
    (h' : Undisturbed (cancelled || calls.any Call.cancels) more) :
    Undisturbed cancelled (calls ++ more) := by
  refine forall_split_append h fun before c after hc => ?_
  obtain ⟨hcalls, hbefore⟩ := h' before c after hc
  obtain ⟨hcancelled, hany⟩ := Bool.or_eq_false_iff.mp hcalls
  exact ⟨hcancelled, List.forall_mem_append.mpr ⟨by simpa using hany, hbefore⟩⟩

theorem singleton (c : Call) : Undisturbed false [c] := by
  intro before b after h
  obtain ⟨rfl, -⟩ : [] = before ∧ _ := by
    cases before with
    | nil => exact ⟨rfl, h⟩
    | cons a before => simp at h
  exact ⟨rfl, by simp⟩

theorem cons (h : Undisturbed c.cancels calls) : Undisturbed false (c :: calls) :=
  (singleton c).append (by simpa using h)

theorem eq_nil_of_cancelled (h : Undisturbed true calls) : calls = [] := by
  cases calls with
  | nil => rfl
  | cons c calls =>
    obtain ⟨hc, -⟩ := h [] c calls rfl
    cases hc

theorem eq_nil_of_cancels (h : Undisturbed cancelled (before ++ c :: after)) (hc : c.cancels) :
    after = [] := by
  cases after with
  | nil => rfl
  | cons a after =>
    obtain ⟨-, hbefore⟩ := h (before ++ [c]) a after (by simp)
    exact absurd hc (by simp [hbefore c (by simp)])

end Undisturbed

@[simp] theorem Answer.cancelled_leave (a : Answer σ α) (s : RunState σ) :
    (a.leave s).cancelled = (s.cancelled || a.cancels) := rfl

namespace Stretch

/-- The calls that a stretch makes, which begins with the run cancelled or not. -/
structure Makes (r : Stretch σ α) (recorded : List Call → Stretch (σ × List Call) α)
    (cancelled : Bool) (made : List Call) : Prop where
  recorded_eq : ∀ calls, recorded calls = r.recorded (calls ++ made)
  cancelled_eq : r.state.cancelled = (cancelled || made.any Call.cancels)
  undisturbed : Undisturbed cancelled made

theorem makes_nil (events : List Event) (result : α) (s : RunState σ) :
    Makes ⟨events, result, s⟩ (fun calls => ⟨events, result, s.recorded calls⟩) s.cancelled [] := by
  constructor
  · intro calls
    rw [List.append_nil]
    rfl
  · simp
  · exact .nil s.cancelled

namespace Makes

variable {r : Stretch σ α} {recorded : List Call → Stretch (σ × List Call) α} {cancelled : Bool}
  {c : Call} {made more : List Call}

theorem result_eq (h : r.Makes recorded cancelled made) (calls : List Call) :
    (recorded calls).result = r.result := by
  rw [h.recorded_eq]
  rfl

theorem told (h : r.Makes recorded cancelled made) (f : List Event → List Event) (g : α → β) :
    Makes ⟨f r.events, g r.result, r.state⟩
      (fun calls => ⟨f (recorded calls).events, g (recorded calls).result, (recorded calls).state⟩)
      cancelled made := by
  refine ⟨fun calls => ?_, h.cancelled_eq, h.undisturbed⟩
  rw [h.recorded_eq]
  rfl

theorem cons {a : Answer σ β} {s : RunState σ}
    (h : r.Makes recorded (a.leave s).cancelled made) (hc : ¬ s.cancelled)
    (ha : a.cancels = c.cancels) :
    r.Makes (fun calls => recorded (calls ++ [c])) s.cancelled (c :: made) := by
  rw [Bool.not_eq_true] at hc
  rw [Answer.cancelled_leave, hc, Bool.false_or, ha] at h
  rw [hc]
  constructor
  · intro calls
    rw [h.recorded_eq, List.append_assoc, List.singleton_append]
  · exact h.cancelled_eq
  · exact h.undisturbed.cons

theorem after {first : Stretch σ β} {recordedFirst : List Call → Stretch (σ × List Call) β}
    (h : first.Makes recordedFirst cancelled made)
    (h' : r.Makes recorded first.state.cancelled more) :
    (r.after first.events).Makes
      (fun calls => (recorded (calls ++ made)).after (recordedFirst calls).events) cancelled
      (made ++ more) := by
  rw [h.cancelled_eq] at h'
  constructor
  · intro calls
    rw [h'.recorded_eq, h.recorded_eq, List.append_assoc]
    rfl
  · rw [List.any_append, ← Bool.or_assoc]
    exact h'.cancelled_eq
  · exact h.undisturbed.append h'.undisturbed

end Makes

end Stretch

end OrderedBuild
