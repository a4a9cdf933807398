import OrderedBuild.Shell.Condition
import OrderedBuild.Shell.State
import OrderedBuild.Text.Utf8

namespace OrderedBuild.Shell.Builtin

abbrev Action := List String → Eval Unit

def countOf (args : List String) (usual : Nat) : Nat :=
  match args with
  | a :: _ => (a.toNat?).getD usual
  | [] => usual

def statusOf (command : String) (args : List String) : Eval Nat := do
  match args with
  | [] => return (← get).status
  | a :: _ =>
    match a.toNat? with
    | some n => return n % 256
    | none => abort (command ++ ": Illegal number: " ++ a)

def exit : Action := fun args => do
  setStatus (← statusOf "exit" args)
  throw .exit

def leaveFunction : Action := fun args => do
  setStatus (← statusOf "return" args)
  throw .fromFunction

def leaveLoops (how : Nat → Leave) : Action := fun args => do
  let loops := (← get).loops
  setStatus 0
  if loops ≠ 0 then throw (how (min loops (max 1 (countOf args 1))))

def colon : Action := fun _ => setStatus 0

def fail : Action := fun _ => setStatus 1

def echo : Action := fun args => do
  modify (·.write 1 (echoBytes args))
  setStatus 0

def print : Action := fun args => do
  match args with
  | [] => refuse 2 "printf: usage: printf format [arg ...]"
  | format :: args =>
    let r := printf format args
    modify (·.write 1 r.bytes)
    for a in r.unfit do complain ("printf: " ++ a ++ ": expected numeric value")
    match r.unknown with
    | some c => refuse 2 ("printf: %" ++ String.singleton c ++ ": invalid directive")
    | none => setStatus (if r.unfit.isEmpty then 0 else 1)

def condition (name : String) (words : List String) : Eval Unit := do
  let s ← get
  match (Condition.mk s.world.tree s.here).evaluate words with
  | .ok b => setStatus (if b then 0 else 1)
  | .error e => refuse 2 (name ++ ": " ++ e)

def test : Action := condition "test"

def bracket : Action := fun args =>
  if args.getLast? = some "]" then condition "[" args.dropLast
  else refuse 2 "[: missing ]"

def pwd : Action := fun args => do
  let s ← get
  let physical := FileTree.pathOf s.here
  let path := if "-P" ∈ args then physical else (s.lookup? "PWD").getD physical
  say 1 (path ++ "\n")
  setStatus 0

/-- A path taken from the working directory, dots worked out by the text alone. -/
def logicalPath (cwd path : String) : String :=
  let names := (Text.splitOn '/' (Path.join cwd path)).foldl (fun ns n =>
    if n = "" || n = "." then ns
    else if n = ".." then ns.dropLast
    else ns ++ [n]) []
  FileTree.pathOf names

def cd : Action := fun args => do
  let s ← get
  let cwd := (s.lookup? "PWD").getD (FileTree.pathOf s.here)
  let target := match args.filter (· ∉ ["-L", "-P", "--"]) with
    | [] => (s.lookup? "HOME").getD ""
    | "-" :: _ => (s.lookup? "OLDPWD").getD ""
    | a :: _ => a
  let path := logicalPath cwd target
  match s.world.tree.find [] path with
  | .ok (l, .directory) =>
    modify fun s => ((({ s with here := l }).setVariable "OLDPWD" cwd).setVariable "PWD" path)
    if args = ["-"] then say 1 (path ++ "\n")
    setStatus 0
  | _ => refuse 2 ("cd: can't cd to " ++ target)

def isName (s : String) : Bool :=
  match s.toList with
  | c :: cs => Arithmetic.isNameStart c && cs.all Arithmetic.isNameChar
  | [] => false

def splitAssignment (w : String) : String × Option String :=
  let (name, rest) := w.toList.span (· ≠ '=')
  (String.ofList name, rest.tail?.map String.ofList)

def marking (command : String) (mark : ShellState → String → ShellState) : Action := fun args => do
  for w in args.filter (· ≠ "-p") do
    let (name, value) := splitAssignment w
    if !isName name then abort (command ++ ": " ++ name ++ ": bad variable name")
    match value with
    | some v => assign name v
    | none => if ((← get).lookup? name).isNone then modify (·.setVariable name "")
    modify (mark · name)
  setStatus 0

def unset : Action := fun args => do
  if "-f" ∈ args then
    modify fun s => { s with functions := s.functions.filter (·.1 ∉ args) }
  else
    for name in args.filter (· ≠ "-v") do
      if (← get).isReadOnly name then abort ("unset: " ++ name ++ ": is read only")
      modify (·.unsetVariable name)
  setStatus 0

def choose (c : Choices) (on : Bool) : List Char → Option Choices
  | [] => some c
  | 'e' :: r => choose { c with exitOnError := on } on r
  | 'u' :: r => choose { c with refuseUnset := on } on r
  | 'f' :: r => choose { c with keepPatterns := on } on r
  | 'x' :: r => choose { c with trace := on } on r
  | l :: r => if l ∈ ['a', 'b', 'C', 'h', 'm', 'n', 'v'] then choose c on r else none

def set : Action := fun args => do
  match args with
  | "--" :: rest => modify ({ · with args := rest })
  | w :: rest =>
    let c := (← get).choices
    let chosen := match w.toList with
      | '-' :: l :: ls => some (choose c true (l :: ls))
      | '+' :: l :: ls => some (choose c false (l :: ls))
      | _ => none
    match chosen with
    | none => modify ({ · with args := w :: rest })
    | some none => abort ("set: Illegal option " ++ w)
    | some (some c) =>
      modify ({ · with choices := c })
      match rest with
      | [] => pure ()
      | "--" :: rest => modify ({ · with args := rest })
      | rest => modify ({ · with args := rest })
  | [] => pure ()
  setStatus 0

def shift : Action := fun args => do
  let n := countOf args 1
  if n > (← get).args.length then abort "shift: can't shift that many"
  modify fun s => { s with args := s.args.drop n }
  setStatus 0

/-- Takes a line apart into as many values as there are names; the last one gets the rest. -/
def splitFor (separators : List Char) : List String → List Char → List (String × String)
  | [], _ => []
  | [name], cs =>
    let trimmed := (cs.dropWhile (· ∈ separators)).reverse.dropWhile (· ∈ separators)
    [(name, String.ofList trimmed.reverse)]
  | name :: names, cs =>
    let (word, rest) := (cs.dropWhile (· ∈ separators)).span (· ∉ separators)
    (name, String.ofList word) :: splitFor separators names rest

def unescapeLine : List Char → List Char
  | '\\' :: c :: r => c :: unescapeLine r
  | c :: r => c :: unescapeLine r
  | [] => []

def read : Action := fun args => do
  let s ← get
  let names := match args.filter (· ≠ "-r") with
    | [] => ["REPLY"]
    | ns => ns
  let (line, w) := match s.channel? 0 with
    | some c => s.world.readLine c
    | none => (none, s.world)
  modify ({ · with world := w })
  match line with
  | none =>
    for n in names do assign n ""
    setStatus 1
  | some (bs, ended) =>
    let cs := Text.decodeLossy bs
    let cs := if "-r" ∈ args then cs else unescapeLine cs
    for (n, v) in splitFor s.separators names cs do assign n v
    setStatus (if ended then 0 else 1)

def umask : Action := fun _ => do
  say 1 "0022\n"
  setStatus 0

def special : List (String × Action) :=
  [(":", colon), ("exit", exit), ("return", leaveFunction), ("break", leaveLoops .fromLoop), ("continue", leaveLoops .toNextTurn),
    ("export", marking "export" ShellState.markExported),
    ("readonly", marking "readonly" ShellState.markReadOnly),
    ("unset", unset), ("set", set), ("shift", shift), ("times", colon)]

def plain : List (String × Action) :=
  [("true", colon), ("false", fail), ("echo", echo), ("printf", print), ("test", test),
    ("[", bracket), ("pwd", pwd), ("cd", cd), ("read", read), ("umask", umask), ("wait", colon),
    ("hash", colon), ("local", marking "local" fun s _ => s), ("ulimit", colon)]

end OrderedBuild.Shell.Builtin
