import OrderedBuild.FileTree.Query
import OrderedBuild.Shell.Arithmetic

namespace OrderedBuild.Shell

structure Condition where
  tree : FileTree
  here : Location

namespace Condition

def isLink (k : Condition) (path : String) : Bool :=
  match k.tree.locate false k.here path with
  | .ok ⟨_, some (.link _)⟩ => true
  | _ => false

def holdsSomething (k : Condition) (path : String) : Bool :=
  match k.tree.find k.here path with
  | .ok (_, .file content _) => !content.isEmpty
  | .ok (_, .sink) => false
  | .ok _ => true
  | .error _ => false

def canBeOpened (k : Condition) (path : String) : Bool :=
  match k.tree.find k.here path with
  | .ok (_, .locked) | .ok (_, .closed) => false
  | .ok _ => true
  | .error _ => false

def isDevice (k : Condition) (path : String) : Bool :=
  match k.tree.find k.here path with
  | .ok (_, .sink) => true
  | _ => false

def canBeRun (k : Condition) (path : String) : Bool :=
  k.tree.isExecutable k.here path || k.tree.isDirectory k.here path && k.canBeOpened path

def one? (k : Condition) (op a : String) : Option Bool :=
  match op with
  | "-n" => some (a ≠ "")
  | "-z" => some (a = "")
  | "-e" => some (k.tree.pathExists k.here a)
  | "-f" => some (k.tree.isFile k.here a)
  | "-d" => some (k.tree.isDirectory k.here a)
  | "-h" => some (k.isLink a)
  | "-L" => some (k.isLink a)
  | "-r" => some (k.canBeOpened a)
  | "-w" => some (k.canBeOpened a)
  | "-x" => some (k.canBeRun a)
  | "-s" => some (k.holdsSomething a)
  | "-c" => some (k.isDevice a)
  | "-b" => some false
  | "-p" => some false
  | "-S" => some false
  | "-t" => some false
  | _ => none

def numbers (a b : String) (holds : Int → Int → Bool) : Except String Bool :=
  match Arithmetic.signedOf? a, Arithmetic.signedOf? b with
  | none, _ => .error ("Illegal number: " ++ a)
  | _, none => .error ("Illegal number: " ++ b)
  | some m, some n => .ok (holds m n)

def two? (a op b : String) : Option (Except String Bool) :=
  match op with
  | "=" => some (.ok (a = b))
  | "!=" => some (.ok (a ≠ b))
  | "<" => some (.ok (a < b))
  | ">" => some (.ok (b < a))
  | "-eq" => some (numbers a b (· == ·))
  | "-ne" => some (numbers a b (· != ·))
  | "-lt" => some (numbers a b fun m n => m < n)
  | "-le" => some (numbers a b fun m n => m ≤ n)
  | "-gt" => some (numbers a b fun m n => m > n)
  | "-ge" => some (numbers a b fun m n => m ≥ n)
  | _ => none

mutual

def anyOf (k : Condition) : Nat → List String → Except String (Bool × List String)
  | 0, _ => .error "too many arguments"
  | fuel + 1, ws => do
    let (a, rest) ← allOf k fuel ws
    match rest with
    | "-o" :: rest =>
      let (b, rest) ← anyOf k fuel rest
      return (a || b, rest)
    | rest => return (a, rest)

def allOf (k : Condition) : Nat → List String → Except String (Bool × List String)
  | 0, _ => .error "too many arguments"
  | fuel + 1, ws => do
    let (a, rest) ← single k fuel ws
    match rest with
    | "-a" :: rest =>
      let (b, rest) ← allOf k fuel rest
      return (a && b, rest)
    | rest => return (a, rest)

def single (k : Condition) : Nat → List String → Except String (Bool × List String)
  | 0, _ => .error "too many arguments"
  | fuel + 1, ws =>
    match ws with
    | [] => .error "argument expected"
    | [a] => .ok (a ≠ "", [])
    | a :: op :: rest =>
      match rest with
      | b :: rest' =>
        match two? a op b with
        | some r => r.map (·, rest')
        | none => other k fuel a (op :: rest)
      | [] => other k fuel a [op]

def other (k : Condition) : Nat → String → List String → Except String (Bool × List String)
  | 0, _, _ => .error "too many arguments"
  | fuel + 1, a, rest =>
    if a = "!" then (single k fuel rest).map fun p => (!p.1, p.2)
    else if a = "(" then do
      let (b, rest) ← anyOf k fuel rest
      match rest with
      | ")" :: rest => return (b, rest)
      | _ => .error "closing paren expected"
    else match rest with
      | [] => .ok (a ≠ "", [])
      | b :: rest' =>
        match k.one? a b with
        | some r => .ok (r, rest')
        | none => .ok (a ≠ "", b :: rest')

end

/-- Whether the words hold; the text of an error if they are no condition. -/
def evaluate (k : Condition) (ws : List String) : Except String Bool := do
  if ws.isEmpty then return false
  let (b, rest) ← anyOf k (4 * ws.length + 8) ws
  if rest.isEmpty then return b
  .error (ws.getD (ws.length - rest.length - 1) "" ++ ": unexpected operator")

end Condition

end OrderedBuild.Shell
