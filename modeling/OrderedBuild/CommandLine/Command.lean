import OrderedBuild.Env

namespace OrderedBuild

inductive Stop where
  /-- An option that may be given once is given again. -/
  | repeated
  /-- A value is missing, or is an empty path. -/
  | invalidValue
  /-- A count is not a number that fits 64 bits. -/
  | badCount
  /-- A value is attached to an option that takes none. -/
  | unexpectedValue
  | help
  | version
deriving DecidableEq, Repr

/-- Asking for help or for the version is no mistake. -/
def Stop.exitCode : Stop → Nat
  | .help => 0
  | .version => 0
  | _ => 2

inductive ValueKind where
  | text
  | path
  | count
deriving DecidableEq, Repr

inductive Switch where
  | flag
  | tally
  | help
  | version
deriving DecidableEq, Repr

inductive OptionAction where
  | switch (s : Switch)
  | setting (kind : ValueKind)
deriving DecidableEq, Repr

structure CommandOption where
  name : String
  short? : Option Char := none
  long : String
  action : OptionAction
  /-- The variable that stands in for an option that is not given. -/
  envName? : Option String := none
deriving DecidableEq, Repr

/-- The argument that takes the words which are neither options nor their values. -/
structure FreeArgument where
  /-- Whether it takes all words from its first one on. -/
  trailing : Bool
  /-- Whether a word of it may begin with a dash. -/
  allowsDashes : Bool
deriving DecidableEq, Repr

structure Command where
  options : List CommandOption
  free : FreeArgument
deriving DecidableEq, Repr

inductive MatchValue where
  | flag
  | count (n : Nat)
  | text (s : String)
deriving DecidableEq, Repr

structure Matches where
  given : List (String × MatchValue)
  free : List String
deriving DecidableEq, Repr

namespace Matches

def isSet (m : Matches) (name : String) : Bool :=
  m.given.lookup name = some .flag

def count? (m : Matches) (name : String) : Option Nat :=
  match m.given.lookup name with
  | some (.count n) => some n
  | _ => none

def text? (m : Matches) (name : String) : Option String :=
  match m.given.lookup name with
  | some (.text s) => some s
  | _ => none

end Matches

/-- Reads words by what a command declares. -/
abbrev CommandParser := Command → Env → List String → Except Stop Matches

/-- What a word is as long as options may come. -/
inductive WordRole (State : Type) where
  | option (next : Except Stop State)
  /-- Two dashes: all further words are free. -/
  | separator
  | free

/-- A way to read options one word at a time, each by what the words before it were. -/
structure OptionReader where
  State : Type
  start : State
  role : State → String → WordRole State
  finish : Env → State → Except Stop (List (String × MatchValue))

namespace OptionReader

/-- Reads options up to the first word that is none, and gives back the words left. -/
def collect (r : OptionReader) (s : r.State) : List String → Except Stop (r.State × List String)
  | [] => .ok (s, [])
  | w :: ws =>
    match r.role s w with
    | .option next => do r.collect (← next) ws
    | .separator => .ok (s, ws)
    | .free => .ok (s, w :: ws)

def parse (r : OptionReader) (env : Env) (words : List String) : Except Stop Matches := do
  let (s, free) ← r.collect r.start words
  return ⟨← r.finish env s, free⟩

end OptionReader

end OrderedBuild
