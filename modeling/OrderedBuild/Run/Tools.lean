import OrderedBuild.Env
import OrderedBuild.Error
import OrderedBuild.Log
import OrderedBuild.Test.Discovery
import OrderedBuild.Test.Output

namespace OrderedBuild

inductive BackendStatus where
  | success
  | failed (status : Int)
  | interrupted
deriving DecidableEq, Repr

structure Answer (σ α : Type) where
  value : α
  /-- The user interrupted the run during the call. -/
  cancels : Bool
  said : List Message
  next : σ

structure Tools (σ : Type) where
  build (package dir : String) (args : List String) (world : σ) :
    Answer σ (Except BuildError BackendStatus)
  test (executable : String) (env : Env) (world : σ) : Answer σ (Except TestError TestOutput)
  isDirectory (path : String) (world : σ) : Bool
  entries (path : String) (world : σ) : Except TestError (List DirEntry)

/-- Once cancelled a run stays so. -/
structure RunState (σ : Type) where
  world : σ
  cancelled : Bool

def Answer.leave {σ α : Type} (a : Answer σ α) (s : RunState σ) : RunState σ :=
  ⟨a.next, s.cancelled || a.cancels⟩

/-- What happens in a run, in order. -/
inductive Event where
  | started (index total : Nat) (package : String)
  | build (package dir : String) (args : List String)
  | built (package : String)
  | test (executable : String) (env : Env)
  | testsFinished (report : TestReport)
  | said (message : Message)

def Event.log (level : Level) (text : String) : Event :=
  .said (.log level text)

/-- A stretch of a run: what happened, what came out, and the state it left. -/
structure Stretch (σ α : Type) where
  events : List Event
  result : α
  state : RunState σ

end OrderedBuild
