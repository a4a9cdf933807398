import OrderedBuild.Env
import OrderedBuild.FileTree.Update
import OrderedBuild.Log
import OrderedBuild.Shell.Command
import OrderedBuild.Shell.Format

namespace OrderedBuild.Shell

inductive Channel where
  /-- The output and the error stream that the first process was given. -/
  | out
  | err
  /-- Kept, to be read when the writer has ended. -/
  | capture (id : Nat)
  | input (id : Nat)
  | file (location : Location)
  | sink
deriving DecidableEq, Repr

structure World where
  tree : FileTree
  /-- What was written to the streams, latest first. -/
  said : List Message
  captures : List (Nat × Bytes)
  /-- What is left to read. -/
  inputs : List (Nat × Bytes)
  nextId : Nat

namespace World

def ofTree (t : FileTree) : World :=
  ⟨t, [], [], [], 1⟩

def fresh (w : World) : Nat × World :=
  (w.nextId, { w with nextId := w.nextId + 1 })

def update (entries : List (Nat × Bytes)) (id : Nat) (bs : Bytes) : List (Nat × Bytes) :=
  (id, bs) :: entries.filter (·.1 ≠ id)

def appendAt (t : FileTree) (l : Location) (bs : Bytes) : FileTree :=
  match t.node? l with
  | some (.file old mode) => t.put l (.file (old ++ ⟨bs.toArray⟩) mode)
  | _ => t

def write (w : World) (c : Channel) (bs : Bytes) : World :=
  if bs.isEmpty then w
  else match c with
    | .out => { w with said := .out ⟨bs.toArray⟩ :: w.said }
    | .err => { w with said := .err ⟨bs.toArray⟩ :: w.said }
    | .capture id => { w with captures := update w.captures id ((w.captures.lookup id).getD [] ++ bs) }
    | .file l => { w with tree := appendAt w.tree l bs }
    | .input _ => w
    | .sink => w

def readAll (w : World) (c : Channel) : Bytes × World :=
  match c with
  | .input id => ((w.inputs.lookup id).getD [], { w with inputs := update w.inputs id [] })
  | _ => ([], w)

def readLine (w : World) (c : Channel) : Option (Bytes × Bool) × World :=
  match c with
  | .input id =>
    let left := (w.inputs.lookup id).getD []
    if left.isEmpty then (none, w)
    else
      let (line, rest) := left.span (· ≠ 10)
      (some (line, !rest.isEmpty), { w with inputs := update w.inputs id rest.tail })
  | _ => (none, w)

def newInput (w : World) (bs : Bytes) : Nat × World :=
  let (id, w) := w.fresh
  (id, { w with inputs := (id, bs) :: w.inputs })

def takeCapture (w : World) (id : Nat) : Bytes × World :=
  ((w.captures.lookup id).getD [], { w with captures := w.captures.filter (·.1 ≠ id) })

end World

abbrev Descriptors := List (Nat × Channel)

namespace Descriptors

def set (ds : Descriptors) (n : Nat) (c : Channel) : Descriptors :=
  (n, c) :: ds.filter (·.1 ≠ n)

def close (ds : Descriptors) (n : Nat) : Descriptors :=
  ds.filter (·.1 ≠ n)

end Descriptors

structure Process where
  here : Location
  env : Env
  descriptors : Descriptors
  /-- The name it was called by. -/
  name : String
  args : List String
  id : Nat

inductive Ending where
  | exited (status : Nat)
  | killed (signal : Nat)
deriving DecidableEq, Repr

def Ending.status : Ending → Nat
  | .exited n => n
  | .killed s => 128 + s

structure Variable where
  name : String
  value : String
  exported : Bool
  readOnly : Bool
deriving DecidableEq, Repr

structure Choices where
  exitOnError : Bool := false
  refuseUnset : Bool := false
  keepPatterns : Bool := false
  trace : Bool := false
deriving DecidableEq, Repr

structure ShellState where
  world : World
  here : Location
  descriptors : Descriptors
  name : String
  args : List String
  id : Nat
  bindings : List Variable
  functions : List (String × Command)
  traps : List (String × String)
  status : Nat
  /-- The status of the last command that was substituted in the current one. -/
  substituted : Option Nat
  /-- How many loops are being run. -/
  loops : Nat
  line : Nat
  choices : Choices

/-- Why a command is left before its end. -/
inductive Leave where
  | exit
  | fromFunction
  | fromLoop (levels : Nat)
  | toNextTurn (levels : Nat)
  | killed (signal : Nat)
  /-- Too many steps were taken. -/
  | exhausted
deriving DecidableEq, Repr

abbrev Eval := ExceptT Leave (StateM ShellState)

namespace ShellState

def lookup? (s : ShellState) (name : String) : Option String :=
  (s.bindings.find? (·.name = name)).map (·.value)

def setVariable (s : ShellState) (name value : String) : ShellState :=
  match s.bindings.find? (·.name = name) with
  | none => { s with bindings := s.bindings ++ [⟨name, value, false, false⟩] }
  | some _ =>
    { s with bindings := s.bindings.map fun v =>
        if v.name = name then { v with value } else v }

def markExported (s : ShellState) (name : String) : ShellState :=
  { s with bindings := s.bindings.map fun v =>
      if v.name = name then { v with exported := true } else v }

def markReadOnly (s : ShellState) (name : String) : ShellState :=
  { s with bindings := s.bindings.map fun v =>
      if v.name = name then { v with readOnly := true } else v }

def unsetVariable (s : ShellState) (name : String) : ShellState :=
  { s with bindings := s.bindings.filter (·.name ≠ name) }

def isReadOnly (s : ShellState) (name : String) : Bool :=
  s.bindings.any fun v => v.name = name && v.readOnly

def env (s : ShellState) : Env :=
  (s.bindings.filter (·.exported)).map fun v => (v.name, v.value)

def channel? (s : ShellState) (n : Nat) : Option Channel :=
  s.descriptors.lookup n

def write (s : ShellState) (n : Nat) (bs : Bytes) : ShellState :=
  match s.channel? n with
  | some c => { s with world := s.world.write c bs }
  | none => s

def separators (s : ShellState) : List Char :=
  ((s.lookup? "IFS").getD " \t\n").toList

def process (s : ShellState) (name : String) (args : List String) (env : Env) : Process :=
  ⟨s.here, env, s.descriptors, name, args, s.id⟩

end ShellState

def say (n : Nat) (text : String) : Eval Unit :=
  modify (·.write n (bytesOf text))

/-- A line on the error stream, with the name of the script and the line number before it. -/
def complain (text : String) : Eval Unit := do
  let s ← get
  say 2 (s.name ++ ": " ++ toString s.line ++ ": " ++ text ++ "\n")

def setStatus (n : Nat) : Eval Unit :=
  modify ({ · with status := n })

def refuse (status : Nat) (text : String) : Eval Unit := do
  complain text
  setStatus status

def abort {α : Type} (text : String) : Eval α := do
  refuse 2 text
  throw .exit

def assign (name value : String) : Eval Unit := do
  if (← get).isReadOnly name then abort (name ++ ": is read only")
  modify (·.setVariable name value)

end OrderedBuild.Shell
