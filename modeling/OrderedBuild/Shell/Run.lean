import OrderedBuild.Shell.Builtin
import OrderedBuild.Shell.Expansion
import OrderedBuild.Shell.Grammar
import OrderedBuild.Shell.PathPattern
import OrderedBuild.Shell.Signal
import OrderedBuild.Shell.Utility

namespace OrderedBuild.Shell

inductive Quoting where
  | bare
  | double
  /-- As between double quotes, but a double quote stands for itself. -/
  | document
deriving DecidableEq, Repr

namespace Quoting

def isBare (q : Quoting) : Bool :=
  q = .bare

def escapable (q : Quoting) (c : Char) : Bool :=
  match q with
  | .bare => true
  | .double => c ∈ ['$', '\x60', '"', '\\', '\n']
  | .document => c ∈ ['$', '\x60', '\\', '\n']

end Quoting

def literalPieces (cs : List Char) : List Piece :=
  cs.map fun c => .char c true false

def asValue : Piece → Piece
  | .char c false _ => .char c false true
  | p => p

def dropFinalNewlines (bs : Bytes) : Bytes :=
  (bs.reverse.dropWhile (· = 10)).reverse

def assignment? (w : RawWord) : Option (String × RawWord) :=
  let (name, rest) := w.span (· ≠ '=')
  match rest with
  | '=' :: value =>
    if Builtin.isName (String.ofList name) then some (String.ofList name, value) else none
  | _ => none

def takeAssignments : List RawWord → List (String × RawWord) × List RawWord
  | [] => ([], [])
  | w :: ws =>
    match assignment? w with
    | some a =>
      let (as, rest) := takeAssignments ws
      (a :: as, rest)
    | none => ([], w :: ws)

def parameterValue (s : ShellState) (name : String) : Option String :=
  match name with
  | "#" => some (toString s.args.length)
  | "?" => some (toString s.status)
  | "$" => some (toString s.id)
  | "-" => some ""
  | "!" => none
  | "0" => some s.name
  | _ =>
    match name.toNat? with
    | some n => s.args[n - 1]?
    | none => s.lookup? name

def isList (name : String) : Bool :=
  name = "@" || name = "*"

def joinedArgs (s : ShellState) : String :=
  let glue := match s.lookup? "IFS" with
    | none => " "
    | some ifs => String.ofList (ifs.toList.take 1)
  glue.intercalate s.args

def valuePieces (s : ShellState) (q : Quoting) (name : String) (value : Option String) :
    List Piece :=
  if name = "@" || (name = "*" && q.isBare) then separatePieces (!q.isBare) s.args
  else if name = "*" then piecesOf true (joinedArgs s)
  else piecesOf (!q.isBare) (value.getD "")

def listValue (s : ShellState) (name : String) : Option String :=
  if isList name then (if s.args.isEmpty then none else some (joinedArgs s))
  else parameterValue s name

/-- Between double quotes there is always a field, except for a list of no arguments. -/
def quotedPieces (s : ShellState) (inside : List Char) (pieces : List Piece) : List Piece :=
  let onlyList := inside = "$@".toList || inside = "$\x7b@\x7d".toList
  if onlyList && s.args.isEmpty then [] else .present :: pieces

def expandTilde (s : ShellState) (w : RawWord) : List Piece × RawWord :=
  let home := literalPieces ((s.lookup? "HOME").getD "~").toList
  match w with
  | ['~'] => (home, [])
  | '~' :: '/' :: r => (home, '/' :: r)
  | w => ([], w)

def defaultPath : String :=
  "/usr/local/sbin:/usr/local/bin:/usr/sbin:/usr/bin:/sbin:/bin"

def searched (path : Option String) (name : String) : List String :=
  (Text.splitOn ':' (path.getD defaultPath)).map fun d => Path.join (if d = "" then "." else d) name

/-- Where a command is found: a name with a slash where it says, another on the search path. -/
def findCommand (t : FileTree) (here : Location) (path : Option String) (name : String) :
    Option String :=
  if '/' ∈ name.toList then some name
  else (searched path name).find? fun p => t.isFile here p && t.isExecutable here p

def interpreter? (content : ByteArray) : Option (String × List String) :=
  match content.toList with
  | 35 :: 33 :: bs =>
    let line := (Text.decodeLossy (bs.takeWhile (· ≠ 10))).dropWhile isBlank
    let (name, rest) := line.span fun c => !isBlank c
    let arg := ((rest.dropWhile isBlank).reverse.dropWhile isBlank).reverse
    if name.isEmpty then none
    else some (String.ofList name, if arg.isEmpty then [] else [String.ofList arg])
  | _ => none

/-- What a shell is told to run. -/
inductive Source where
  | text (s : String)
  | file (path : String)
  | input
deriving DecidableEq, Repr

structure Start where
  source : Source
  name : String
  args : List String
  choices : Choices

def startOf (name : String) (choices : Choices) (command input : Bool) : List String → Start
  | w :: ws =>
    let words := fun (c : Choices) (command input : Bool) (ws : List String) =>
      match command, input, ws with
      | true, _, text :: n :: args => Start.mk (.text text) n args c
      | true, _, [text] => ⟨.text text, name, [], c⟩
      | true, _, [] => ⟨.text "", name, [], c⟩
      | false, true, args => ⟨.input, name, args, c⟩
      | false, false, f :: args => ⟨.file f, f, args, c⟩
      | false, false, [] => ⟨.input, name, [], c⟩
    match w.toList with
    | ['-'] => words choices command input ws
    | ['-', '-'] => words choices command input ws
    | '-' :: letters =>
      let c := (Builtin.choose choices true (letters.filter (· ∉ ['c', 's', 'i', 'l']))).getD choices
      startOf name c (command || 'c' ∈ letters) (input || 's' ∈ letters) ws
    | _ => words choices command input (w :: ws)
  | [] => ⟨if command then .text "" else .input, name, [], choices⟩

def envWords (env : Env) : List String → Env × List String
  | [] => (env, [])
  | "-i" :: ws => envWords [] ws
  | "-u" :: n :: ws => envWords (env.unset n) ws
  | w :: ws =>
    match Builtin.splitAssignment w with
    | (n, some v) => envWords (env.set n v) ws
    | (_, none) => (env, w :: ws)

def firstState (p : Process) (start : Start) (w : World) : ShellState :=
  let physical := FileTree.pathOf p.here
  let s : ShellState := {
    world := w, here := p.here, descriptors := p.descriptors, name := start.name,
    args := start.args, id := p.id,
    bindings := (p.env.filter fun v => Builtin.isName v.1 && v.1 ≠ "IFS").map fun v =>
      ⟨v.1, v.2, true, false⟩
    functions := [], traps := [], status := 0, substituted := none, loops := 0, line := 1,
    choices := start.choices }
  match s.lookup? "PWD" with
  | some d =>
    match w.tree.find [] d with
    | .ok (l, _) => if l = p.here then s else s.setVariable "PWD" physical
    | .error _ => s.setVariable "PWD" physical
  | none => s.setVariable "PWD" physical

def endingOf (r : Except Leave Unit) (status : Nat) : Ending :=
  match r with
  | .error (.killed signal) => .killed signal
  | _ => .exited status

def createText (e : OsError) : String :=
  if e = .notFound then "Directory nonexistent" else e.text

def openText (e : OsError) : String :=
  if e = .notFound then "No such file" else e.text

def openFile (kind : RedirectKind) (path : String) (s : ShellState) :
    Except String (Channel × World) :=
  let w := s.world
  let fileAt := fun (t : FileTree) =>
    match t.find s.here path with
    | .ok (_, .sink) => Channel.sink
    | .ok (l, _) => .file l
    | .error _ => .sink
  let reading :=
    match w.tree.read s.here path with
    | .ok content =>
      let (id, w) := w.newInput content.toList
      Except.ok (Channel.input id, w)
    | .error e => .error ("cannot open " ++ path ++ ": " ++ openText e)
  let refusal := fun e => "cannot create " ++ path ++ ": " ++ createText e
  match path, kind with
  | "/dev/stdout", _ => .ok ((s.channel? 1).getD .sink, w)
  | "/dev/stderr", _ => .ok ((s.channel? 2).getD .sink, w)
  | _, .write =>
    match w.tree.write s.here path .empty false with
    | .ok t => .ok (fileAt t, { w with tree := t })
    | .error e => .error (refusal e)
  | _, .append =>
    match w.tree.append s.here path .empty with
    | .ok t => .ok (fileAt t, { w with tree := t })
    | .error e => .error (refusal e)
  | _, _ => reading

mutual

/-- Works out the quotes and substitutions of a text. -/
def expand (q : Quoting) : Nat → List Char → Eval (List Piece)
  | 0, _ => throw .exhausted
  | _, [] => return []
  | fuel + 1, '\\' :: c :: r => do
    if !q.escapable c then
      return .char '\\' (!q.isBare) false :: (← expand q fuel (c :: r))
    else if c = '\n' then expand q fuel r
    else return .char c true false :: (← expand q fuel r)
  | fuel + 1, '\'' :: r => do
    if q.isBare then
      let (inside, rest) := r.span (· ≠ '\'')
      return .present :: literalPieces inside ++ (← expand q fuel rest.tail)
    else return .char '\'' true false :: (← expand q fuel r)
  | fuel + 1, '"' :: r => do
    if q = .document then return .char '"' true false :: (← expand q fuel r)
    else
      let (inside, rest) := (enclosed? .double r).getD (r, [])
      let pieces ← expand .double fuel inside
      let pieces := quotedPieces (← get) inside pieces
      return pieces ++ (← expand q fuel rest)
  | fuel + 1, '\x60' :: r => do
    let (inside, rest) := (enclosed? .back r).getD (r, [])
    let pieces ← commandPieces q fuel (unescapeBack (q = .double) inside)
    return pieces ++ (← expand q fuel rest)
  | fuel + 1, '$' :: r => do
    match substitution? (!q.isBare) r with
    | none => return .char '$' (!q.isBare) false :: (← expand q fuel r)
    | some (s, rest) =>
      let pieces ← substitute q fuel s
      return pieces ++ (← expand q fuel rest)
  | fuel + 1, c :: r => return .char c (!q.isBare) false :: (← expand q fuel r)

def substitute (q : Quoting) : Nat → Substitution → Eval (List Piece)
  | 0, _ => throw .exhausted
  | _, .mistaken => abort "Bad substitution"
  | fuel + 1, .command text => commandPieces q fuel text
  | fuel + 1, .arithmetic text => do
    let text := textOf (marksOf (← expand .double fuel text))
    match Arithmetic.evaluate (parameterValue (← get)) text.toList with
    | .ok (n, assigned) =>
      for (x, value) in assigned.reverse do assign x (toString value)
      return piecesOf (!q.isBare) (toString n)
    | .error fault => abort (fault.message text)
  | fuel + 1, .parameter name use => parameterPieces q fuel name use

def parameterPieces (q : Quoting) : Nat → String → ParameterUse → Eval (List Piece)
  | 0, _, _ => throw .exhausted
  | fuel + 1, name, use => do
    let s ← get
    let value := listValue s name
    let usual := valuePieces s q name value
    let refused := value.isNone && s.choices.refuseUnset && !isList name
    match use with
    | .value =>
      if refused then abort (name ++ ": parameter not set")
      return usual
    | .size =>
      if refused then abort (name ++ ": parameter not set")
      let size := if isList name then s.args.length else (value.getD "").utf8ByteSize
      return piecesOf (!q.isBare) (toString size)
    | .trim fromEnd longest pattern =>
      if refused then abort (name ++ ": parameter not set")
      let marks := marksOf (← expand .bare fuel pattern)
      let text := (value.getD "").toList
      let rest := if fromEnd then withoutEnding longest marks text
        else withoutBeginning longest marks text
      return piecesOf (!q.isBare) (String.ofList rest)
    | .fallback kind orEmpty word =>
      let missing := value.isNone || (orEmpty && value = some "")
      match kind with
      | .use =>
        if missing then return (← expand q fuel word).map asValue else return usual
      | .replace =>
        if missing then return [] else return (← expand q fuel word).map asValue
      | .assign =>
        if missing then
          let text := textOf (marksOf (← expand q fuel word))
          if !Builtin.isName name then abort (name ++ ": bad variable name")
          assign name text
          return piecesOf (!q.isBare) text
        else return usual
      | .fail =>
        if missing then
          let text := textOf (marksOf (← expand q fuel word))
          let text := if text ≠ "" then text
            else if orEmpty then "parameter not set or null" else "parameter not set"
          abort (name ++ ": " ++ text)
        else return usual

/-- What a command writes, without the line ends at its end. -/
def commandPieces (q : Quoting) : Nat → List Char → Eval (List Piece)
  | 0, _ => throw .exhausted
  | fuel + 1, text => do
    let before := (← get).status
    let (id, w) := (← get).world.fresh
    modify ({ · with world := w })
    inSubshell fuel (fun s => { s with descriptors := s.descriptors.set 1 (.capture id) })
      (script fuel (tokens (String.ofList text)))
    let (bs, w) := (← get).world.takeCapture id
    modify fun s => { s with world := w, status := before, substituted := some s.status }
    let text := String.ofList (Text.decodeLossy (dropFinalNewlines (bs.filter (· ≠ 0))))
    return piecesOf (!q.isBare) text

/-- Runs an action in a copy of the shell: only the world and the status come back. -/
def inSubshell : Nat → (ShellState → ShellState) → Eval Unit → Eval Unit
  | 0, _, _ => throw .exhausted
  | fuel + 1, change, action => do
    let s ← get
    let (r, s') := (runToEnd fuel action).run.run { change s with traps := [] }
    set { s with world := s'.world, status := s'.status }
    match r with
    | .error (.killed signal) => throw (.killed signal)
    | .error .exhausted => throw .exhausted
    | _ => return

def runToEnd : Nat → Eval Unit → Eval Unit
  | 0, _ => throw .exhausted
  | fuel + 1, action => do
    let r ← observe action
    match r with
    | .error (.killed signal) => throw (.killed signal)
    | .error .exhausted => throw .exhausted
    | _ =>
      match (← get).traps.lookup "EXIT" with
      | none => return
      | some text =>
        let status := (← get).status
        modify fun s => { s with traps := s.traps.filter (·.1 ≠ "EXIT") }
        match ← observe (script fuel (tokens text)) with
        | .error .exit => return
        | .error (.killed signal) => throw (.killed signal)
        | _ => setStatus status
where
  observe (action : Eval Unit) : Eval (Except Leave Unit) :=
    tryCatch (do action; return .ok ()) fun l => return .error l

def oneText : Nat → RawWord → Eval String
  | 0, _ => throw .exhausted
  | fuel + 1, w => do
    let (home, w) := expandTilde (← get) w
    return textOf (marksOf (home ++ (← expand .bare fuel w)))

def fields : Nat → RawWord → Eval (List String)
  | 0, _ => throw .exhausted
  | fuel + 1, w => do
    let (home, w) := expandTilde (← get) w
    let pieces := home ++ (← expand .bare fuel w)
    let s ← get
    return (fieldsOf s.separators pieces).flatMap fun marks =>
      if s.choices.keepPatterns then [textOf marks] else expandPaths s.world.tree s.here marks

def allFields : Nat → List RawWord → Eval (List String)
  | 0, _ => throw .exhausted
  | _, [] => return []
  | fuel + 1, w :: ws => do
    let first ← fields fuel w
    return first ++ (← allFields fuel ws)

/-- Runs the lines of a script one after the other. -/
def script : Nat → List Token → Eval Unit
  | 0, _ => throw .exhausted
  | fuel + 1, ts => do
    match Parse.nextLine.run ts with
    | .error m => do
      modify ({ · with line := m.line })
      abort ("Syntax error: " ++ m.message)
    | .ok (none, _) => return
    | .ok (some c, rest) => do
      exec false fuel c
      script fuel rest

/-- Opens what redirections name; `false` if one of them cannot be opened. -/
def redirect : Nat → List Redirect → Eval Bool
  | 0, _ => throw .exhausted
  | _, [] => return true
  | fuel + 1, r :: rs => do
    let opened ← openOne fuel r
    if opened then redirect fuel rs else return false

def openOne : Nat → Redirect → Eval Bool
  | 0, _ => throw .exhausted
  | fuel + 1, r => do
    let connect := fun (c : Channel) (w : World) => (do
      modify fun s => { s with world := w, descriptors := s.descriptors.set r.descriptor c }
      return true : Eval Bool)
    match r.kind with
    | .document expands =>
      let body ← if expands then pure (textOf (marksOf (← expand .document fuel r.target)))
        else pure (String.ofList r.target)
      let (id, w) := (← get).world.newInput (bytesOf body)
      connect (.input id) w
    | .duplicate =>
      let target ← oneText fuel r.target
      let s ← get
      if target = "-" then
        set { s with descriptors := s.descriptors.close r.descriptor }
        return true
      match target.toNat?.bind s.channel? with
      | some c => connect c s.world
      | none =>
        refuse 2 (target ++ ": Bad file descriptor")
        return false
    | kind =>
      let path ← oneText fuel r.target
      match openFile kind path (← get) with
      | .ok (c, w) => connect c w
      | .error text =>
        refuse 2 text
        return false

def redirecting : Nat → List Redirect → Eval Unit → Eval Unit
  | 0, _, _ => throw .exhausted
  | fuel + 1, rs, action => do
    let before := (← get).descriptors
    try
      if ← redirect fuel rs then action
    finally
      modify ({ · with descriptors := before })

/-- Runs a command. A status that is `checked` may be a failure without ending the shell. -/
def exec (checked : Bool) : Nat → Command → Eval Unit
  | 0, _ => throw .exhausted
  | fuel + 1, c => do
    match c with
    | .simple line words rs =>
      modify ({ · with line := line })
      simple fuel words rs
      stopOnFailure
    | .negate c =>
      exec true fuel c
      modify fun s => { s with status := if s.status = 0 then 1 else 0 }
    | .pipe source sink =>
      let (id, w) := (← get).world.fresh
      modify ({ · with world := w })
      inSubshell fuel (fun s => { s with descriptors := s.descriptors.set 1 (.capture id) })
        (exec checked fuel source)
      let (bs, w) := (← get).world.takeCapture id
      let (input, w) := w.newInput bs
      modify ({ · with world := w })
      inSubshell fuel (fun s => { s with descriptors := s.descriptors.set 0 (.input input) })
        (exec checked fuel sink)
      stopOnFailure
    | .both a b =>
      exec true fuel a
      if (← get).status = 0 then exec checked fuel b
    | .either a b =>
      exec true fuel a
      if (← get).status ≠ 0 then exec checked fuel b
    | .inOrder a b =>
      exec checked fuel a
      exec checked fuel b
    | .background c =>
      inSubshell fuel (fun s => { s with descriptors := s.descriptors.set 0 .sink })
        (exec true fuel c)
      setStatus 0
    | .choose test yes no =>
      exec true fuel test
      if (← get).status = 0 then exec checked fuel yes
      else match no with
        | some no => exec checked fuel no
        | none => setStatus 0
    | .repeatWhile wanted test body => turns checked fuel wanted test body 0
    | .forEach name words body =>
      let values ← match words with
        | some ws => allFields fuel ws
        | none => do pure (← get).args
      setStatus 0
      each checked fuel name body values
    | .select word arms =>
      let text ← oneText fuel word
      setStatus 0
      selectArm checked fuel text arms
    | .subshell c =>
      inSubshell fuel id (exec checked fuel c)
      stopOnFailure
    | .redirected c rs => redirecting fuel rs (exec checked fuel c)
    | .define name body =>
      modify fun s => { s with functions := (name, body) :: s.functions.filter (·.1 ≠ name) }
      setStatus 0
where
  stopOnFailure : Eval Unit := do
    let s ← get
    if s.choices.exitOnError && !checked && s.status ≠ 0 then throw .exit

/-- The turns of a loop that runs as long as its test says; `last` is the status so far. -/
def turns (checked : Bool) : Nat → Bool → Command → Command → Nat → Eval Unit
  | 0, _, _, _, _ => throw .exhausted
  | fuel + 1, wanted, test, body, last => do
    exec true fuel test
    if ((← get).status == 0) == wanted then
      if ← oneTurn (exec checked fuel body) then
        turns checked fuel wanted test body (← get).status
    else setStatus last

def each (checked : Bool) : Nat → String → Command → List String → Eval Unit
  | 0, _, _, _ => throw .exhausted
  | _, _, _, [] => return
  | fuel + 1, name, body, v :: vs => do
    assign name v
    if ← oneTurn (exec checked fuel body) then each checked fuel name body vs

def oneTurn (action : Eval Unit) : Eval Bool := do
  modify fun s => { s with loops := s.loops + 1 }
  try
    tryCatch (do action; return true) fun
      | .fromLoop n => if n ≤ 1 then return false else throw (.fromLoop (n - 1))
      | .toNextTurn n => if n ≤ 1 then return true else throw (.toNextTurn (n - 1))
      | l => throw l
  finally
    modify fun s => { s with loops := s.loops - 1 }

def selectArm (checked : Bool) : Nat → String → List (List RawWord × Option Command) → Eval Unit
  | 0, _, _ => throw .exhausted
  | _, _, [] => return
  | fuel + 1, text, (ps, body) :: arms => do
    if ← anyMatches fuel text ps then
      match body with
      | some c => exec checked fuel c
      | none => return
    else selectArm checked fuel text arms

def anyMatches : Nat → String → List RawWord → Eval Bool
  | 0, _, _ => throw .exhausted
  | _, _, [] => return false
  | fuel + 1, text, p :: ps => do
    let marks := marksOf (← expand .bare fuel p)
    if matchesPattern marks text then return true else anyMatches fuel text ps

def assignAll : Nat → Bool → List (String × RawWord) → Eval Unit
  | 0, _, _ => throw .exhausted
  | _, _, [] => return
  | fuel + 1, exported, (name, w) :: as => do
    assign name (← oneText fuel w)
    if exported then modify (·.markExported name)
    assignAll fuel exported as

/-- A simple command: settings of variables, then the name of a command and its words. Settings
without a command stay. -/
def simple : Nat → List RawWord → List Redirect → Eval Unit
  | 0, _, _ => throw .exhausted
  | fuel + 1, words, rs => do
    let (settings, words) := takeAssignments words
    modify ({ · with substituted := none })
    match ← allFields fuel words with
    | [] =>
      redirecting fuel rs do
        assignAll fuel false settings
        setStatus ((← get).substituted.getD 0)
    | name :: args =>
      if (← get).choices.trace then
        say 2 ("+ " ++ " ".intercalate (name :: args) ++ "\n")
      if name = "exec" then replaceShell fuel settings args rs
      else redirecting fuel rs (withSettings fuel settings name args)

/-- Runs a command with settings of variables that end with it, unless the command is one of
those that keep them. -/
def withSettings : Nat → List (String × RawWord) → String → List String → Eval Unit
  | 0, _, _, _ => throw .exhausted
  | fuel + 1, settings, name, args => do
    if settings.isEmpty then call fuel true name args
    else if (Builtin.special.lookup name).isSome then
      assignAll fuel false settings
      call fuel true name args
    else
      let before := (← get).bindings
      try
        assignAll fuel true settings
        call fuel true name args
      finally
        if !settings.isEmpty then
          modify fun s => { s with bindings := restore settings before s.bindings }
where
  restore (settings : List (String × RawWord)) (before now : List Variable) : List Variable :=
    let names := settings.map (·.1)
    now.filter (·.name ∉ names) ++ before.filter (·.name ∈ names)

def call : Nat → Bool → String → List String → Eval Unit
  | 0, _, _, _ => throw .exhausted
  | fuel + 1, functions, name, args => do
    let s ← get
    let function := if functions then s.functions.lookup name else none
    match Builtin.special.lookup name, function, Builtin.plain.lookup name with
    | some action, _, _ => action args
    | none, some body, _ => callFunction fuel body args
    | none, none, some action => action args
    | none, none, none =>
      match name with
      | "eval" =>
        setStatus 0
        script fuel (tokens (" ".intercalate args))
      | "." => source fuel args
      | "command" => plainCall fuel args
      | "type" => describe args
      | "trap" => trap args
      | "kill" => kill fuel args
      | _ => callProgram fuel name args
where
  describe (args : List String) : Eval Unit := do
    setStatus 0
    for a in args do
      let s ← get
      let builtin := (Builtin.special.lookup a).isSome || (Builtin.plain.lookup a).isSome ||
        a ∈ ["eval", ".", "command", "type", "trap", "kill", "exec"]
      if (s.functions.lookup a).isSome then say 1 (a ++ " is a shell function\n")
      else if builtin then say 1 (a ++ " is a shell builtin\n")
      else match findCommand s.world.tree s.here (s.lookup? "PATH") a with
        | some p => say 1 (a ++ " is " ++ p ++ "\n")
        | none => do
          say 1 (a ++ ": not found\n")
          setStatus 127
  trap (args : List String) : Eval Unit := do
    let nameOf := fun (a : String) => if a = "0" || a = "EXIT" then "EXIT"
      else match Signal.ofText? a with
        | some n => Signal.nameOf n
        | none => a
    match args with
    | [] => pure ()
    | [one] => modify fun s => { s with traps := s.traps.filter (·.1 ≠ nameOf one) }
    | action :: names =>
      let names := names.map nameOf
      modify fun s => { s with traps := s.traps.filter (·.1 ∉ names) }
      if action ≠ "-" then
        modify fun s => { s with traps := s.traps ++ names.map (·, action) }
    setStatus 0

def callFunction : Nat → Command → List String → Eval Unit
  | 0, _, _ => throw .exhausted
  | fuel + 1, body, args => do
    let before := (← get).args
    modify ({ · with args := args })
    try
      tryCatch (exec false fuel body) fun
        | .fromFunction => return
        | l => throw l
    finally
      modify ({ · with args := before })

def source : Nat → List String → Eval Unit
  | 0, _ => throw .exhausted
  | fuel + 1, args => do
    let s ← get
    match args with
    | [] => setStatus 0
    | name :: _ =>
      let path := if '/' ∈ name.toList then some name
        else (searched (s.lookup? "PATH") name).find? (s.world.tree.isFile s.here)
      let content := match path with
        | none => Except.error (name ++ ": not found")
        | some path => (s.world.tree.read s.here path).mapError fun e =>
            "cannot open " ++ path ++ ": " ++ openText e
      match content with
      | .error text => abort (".: " ++ text)
      | .ok content =>
        setStatus 0
        tryCatch (script fuel (tokens (Text.ofBytesLossy content))) fun
          | .fromFunction => return
          | l => throw l

def plainCall : Nat → List String → Eval Unit
  | 0, _ => throw .exhausted
  | fuel + 1, args => do
    match args with
    | [] => setStatus 0
    | "-v" :: name :: _ =>
      let s ← get
      if (Builtin.special.lookup name).isSome || (Builtin.plain.lookup name).isSome ||
          (s.functions.lookup name).isSome || name ∈ ["eval", ".", "command", "trap", "kill"] then
        say 1 (name ++ "\n")
        setStatus 0
      else match findCommand s.world.tree s.here (s.lookup? "PATH") name with
        | some p =>
          if s.world.tree.isExecutable s.here p then
            say 1 (p ++ "\n")
            setStatus 0
          else setStatus 127
        | none => setStatus 127
    | name :: args => call fuel false name args

/-- Sends a signal. Only this shell itself is known to be there. -/
def kill : Nat → List String → Eval Unit
  | 0, _ => throw .exhausted
  | fuel + 1, args => do
    let (signal, targets) := match args with
      | "-s" :: n :: rest => (Signal.ofText? n, rest)
      | "--" :: rest => (some 15, rest)
      | a :: rest =>
        match a.toList with
        | '-' :: n => (Signal.ofText? (String.ofList n), rest)
        | _ => (some 15, a :: rest)
      | [] => (some 15, [])
    match signal with
    | none => refuse 2 ("kill: Illegal option " ++ (args.headD "").take 2)
    | some signal =>
      setStatus 0
      for t in targets do
        if t = toString (← get).id then deliver fuel signal
        else refuse 1 "kill: No such process\n"

def deliver : Nat → Nat → Eval Unit
  | 0, _ => throw .exhausted
  | fuel + 1, signal => do
    match (← get).traps.lookup (Signal.nameOf signal) with
    | some action =>
      if signal = 9 then throw (.killed signal)
      let status := (← get).status
      script fuel (tokens action)
      setStatus status
    | none => if signal ∈ Signal.ignored then return else throw (.killed signal)

def callProgram : Nat → String → List String → Eval Unit
  | 0, _, _ => throw .exhausted
  | fuel + 1, name, args => do
    let s ← get
    match findCommand s.world.tree s.here (s.lookup? "PATH") name with
    | none => refuse 127 (name ++ ": not found")
    | some path =>
      let (id, w) := s.world.fresh
      match launch fuel { s.process name args s.env with id := s.id + id } path w with
      | (.error e, w) =>
        modify ({ · with world := w })
        refuseProgram name e
      | (.ok ending, w) =>
        modify ({ · with world := w, status := ending.status })
        match ending with
        | .killed signal =>
          let text := Signal.farewell signal
          if text ≠ "" then say 2 (text ++ "\n")
        | .exited _ => return

def refuseProgram (name : String) (e : OsError) : Eval Unit :=
  if e = .notFound then refuse 127 (name ++ ": not found")
  else refuse 126 (name ++ ": " ++ e.text)

/-- Makes a program take the place of this shell; without a program the redirections stay. -/
def replaceShell : Nat → List (String × RawWord) → List String → List Redirect → Eval Unit
  | 0, _, _, _ => throw .exhausted
  | fuel + 1, settings, args, rs => do
    setStatus 0
    assignAll fuel true settings
    if ← redirect fuel rs then
      match args with
      | [] => return
      | name :: args =>
        let s ← get
        match findCommand s.world.tree s.here (s.lookup? "PATH") name with
        | none =>
          refuse 127 ("exec: " ++ name ++ ": not found")
          throw .exit
        | some path =>
          match launch fuel (s.process name args s.env) path s.world with
          | (.error e, w) =>
            modify ({ · with world := w })
            refuseProgram ("exec: " ++ name) e
            throw .exit
          | (.ok ending, w) =>
            modify ({ · with world := w, status := ending.status, traps := [] })
            match ending with
            | .killed signal => throw (.killed signal)
            | .exited _ => throw .exit
    else throw .exit

/-- Starts a program for a shell: a file that is neither a program nor names an interpreter is
read as commands. -/
def launch : Nat → Process → String → World → Except OsError Ending × World
  | 0, _, _, w => (.ok (.exited 1), w)
  | fuel + 1, p, path, w =>
    match spawn fuel p path w with
    | (.error .execFormat, w) => runShell fuel { p with name := path, args := path :: p.args } w
    | r => r

def spawn : Nat → Process → String → World → Except OsError Ending × World
  | 0, _, _, w => (.ok (.exited 1), w)
  | fuel + 1, p, path, w =>
    match w.tree.find p.here path with
    | .error e => (.error e, w)
    | .ok (_, .program name) => runSystem fuel name p w
    | .ok (_, .file content executable) =>
      if !executable then (.error .permissionDenied, w)
      else match interpreter? content with
        | none => (.error .execFormat, w)
        | some (interpreter, args) =>
          spawn fuel { p with name := interpreter, args := args ++ path :: p.args } interpreter w
    | .ok _ => (.error .permissionDenied, w)

def runSystem : Nat → String → Process → World → Except OsError Ending × World
  | 0, _, _, w => (.ok (.exited 1), w)
  | fuel + 1, name, p, w =>
    match Utility.ofName? name with
    | some program =>
      let (status, w) := program p w
      (.ok (.exited status), w)
    | none =>
      if name = "env" then runWithEnv fuel p w else runShell fuel p w

def runWithEnv : Nat → Process → World → Except OsError Ending × World
  | 0, _, w => (.ok (.exited 1), w)
  | fuel + 1, p, w =>
    match envWords p.env p.args with
    | (env, []) =>
      (.ok (.exited 0), p.say 1 (String.join (env.map fun v => v.1 ++ "=" ++ v.2 ++ "\n")) w)
    | (env, name :: args) =>
      let refused := fun e => (Except.ok (Ending.exited (if e = OsError.notFound then 127 else 126)),
        p.complain ("'" ++ name ++ "': " ++ e.text) w)
      match findCommand w.tree p.here (env.get? "PATH") name with
      | none => refused .notFound
      | some path =>
        match launch fuel { p with env, name, args } path w with
        | (.error e, _) => refused e
        | r => r

def runShell : Nat → Process → World → Except OsError Ending × World
  | 0, _, w => (.ok (.exited 1), w)
  | fuel + 1, p, w =>
    let start := startOf p.name {} false false p.args
    let run := fun (text : String) (w : World) =>
      let (r, s) := (runToEnd fuel (script fuel (tokens text))).run.run (firstState p start w)
      (Except.ok (endingOf r s.status), s.world)
    match start.source with
    | .text text => run text w
    | .input =>
      let (bs, w) := p.readAll w
      run (Text.ofBytesLossy ⟨bs.toArray⟩) w
    | .file path =>
      match w.tree.read p.here path with
      | .ok content => run (Text.ofBytesLossy content) w
      | .error e =>
        (.ok (.exited 2), p.say 2 (p.name ++ ": 0: cannot open " ++ path ++ ": " ++ openText e ++
          "\n") w)

end

/-- Steps enough for anything that is meant to end. -/
def steps : Nat := 1000000

end OrderedBuild.Shell
