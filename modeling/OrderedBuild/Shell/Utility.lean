import OrderedBuild.Shell.Condition
import OrderedBuild.Shell.State
import OrderedBuild.Text.Utf8

namespace OrderedBuild.Shell

namespace Process

def write (p : Process) (n : Nat) (bs : Bytes) (w : World) : World :=
  match p.descriptors.lookup n with
  | some c => w.write c bs
  | none => w

def say (p : Process) (n : Nat) (text : String) (w : World) : World :=
  p.write n (bytesOf text) w

def complain (p : Process) (text : String) (w : World) : World :=
  p.say 2 (p.name ++ ": " ++ text ++ "\n") w

def readAll (p : Process) (w : World) : Bytes × World :=
  match p.descriptors.lookup 0 with
  | some c => w.readAll c
  | none => ([], w)

end Process

namespace Utility

/-- A program: the status it ends with, and the world it leaves. -/
abbrev Program := Process → World → Nat × World

def wholeName (cs : List Char) : List Char :=
  let trimmed := cs.reverse.dropWhile (· = '/')
  if trimmed.isEmpty && !cs.isEmpty then ['/'] else (trimmed.takeWhile (· ≠ '/')).reverse

def baseName (path : String) (ending : String) : String :=
  let name := wholeName path.toList
  let e := ending.toList
  if e.isSuffixOf name && e.length < name.length then
    String.ofList (name.take (name.length - e.length))
  else String.ofList name

def dirName (path : String) : String :=
  let dropSlashes := fun cs : List Char => cs.dropWhile (· = '/')
  let r := dropSlashes path.toList.reverse
  if r.isEmpty then (if path = "" then "." else "/")
  else
    let above := r.dropWhile (· ≠ '/')
    if above.isEmpty then "."
    else
      let above := dropSlashes above
      if above.isEmpty then "/" else String.ofList above.reverse

def basename : Program := fun p w =>
  match p.args with
  | [] => (1, p.complain "missing operand" w)
  | path :: rest => (0, p.say 1 (baseName path (rest.headD "") ++ "\n") w)

def dirname : Program := fun p w =>
  match p.args with
  | [] => (1, p.complain "missing operand" w)
  | paths => (0, p.say 1 (String.join (paths.map (dirName · ++ "\n"))) w)

def echo : Program := fun p w => (0, p.write 1 (echoBytes p.args) w)

def printfProgram : Program := fun p w =>
  match p.args with
  | [] => (1, p.complain "missing operand" w)
  | format :: args =>
    let r := printf format args
    (if r.unfit.isEmpty then 0 else 1, p.write 1 r.bytes w)

def testProgram (bracketed : Bool) : Program := fun p w =>
  let k : Condition := ⟨w.tree, p.here⟩
  let words := if bracketed then
      if p.args.getLast? = some "]" then Except.ok p.args.dropLast else .error "missing ]"
    else .ok p.args
  match words.bind k.evaluate with
  | .ok b => (if b then 0 else 1, w)
  | .error e => (2, p.complain e w)

/-- The bytes of the named files one after the other; a dash, or no name at all, is the input. -/
def inputBytes (p : Process) (names : List String) (w : World) : Bytes × Nat × World :=
  let names := if names.isEmpty then ["-"] else names
  names.foldl (fun (acc : Bytes × Nat × World) name =>
    let (bs, status, w) := acc
    if name = "-" then
      let (more, w) := p.readAll w
      (bs ++ more, status, w)
    else match w.tree.read p.here name with
      | .ok content => (bs ++ content.toList, status, w)
      | .error e => (bs, 1, p.complain (name ++ ": " ++ e.text) w)) ([], 0, w)

def plainWords (args : List String) : List String :=
  args.filter fun a => a = "-" || !(a.toList.head? == some '-')

def cat : Program := fun p w =>
  let (bs, status, w) := inputBytes p (plainWords p.args) w
  (status, p.write 1 bs w)

def splitLines (bs : Bytes) : List Bytes :=
  let rec go : Bytes → Bytes → List Bytes
    | [], [] => []
    | [], current => [current.reverse]
    | 10 :: r, current => current.reverse :: go r []
    | b :: r, current => go r (b :: current)
  go bs []

def joinByteLines (ls : List Bytes) : Bytes :=
  ls.flatMap (· ++ [10])

inductive Amount where
  | lines (n : Nat)
  | bytes (n : Nat)

/-- An amount given as `-n 5`, `-n5`, `-5`, `-c 5` or `-c5`, and the other words. -/
def amountOption (usual : Amount) : List String → Amount × List String
  | "-n" :: k :: rest => ((k.toNat?.map .lines).getD usual, rest)
  | "-c" :: k :: rest => ((k.toNat?.map .bytes).getD usual, rest)
  | a :: rest =>
    let read := fun (cs : List Char) (of : Nat → Amount) =>
      match (String.ofList cs).toNat? with
      | some n => (of n, rest)
      | none => (usual, a :: rest)
    match a.toList with
    | '-' :: 'n' :: ds => read ds .lines
    | '-' :: 'c' :: ds => read ds .bytes
    | '-' :: ds => read ds .lines
    | _ => (usual, a :: rest)
  | [] => (usual, [])

def firstOf (amount : Amount) (bs : Bytes) : Bytes :=
  match amount with
  | .bytes n => bs.take n
  | .lines n => joinByteLines ((splitLines bs).take n)

def lastOf (amount : Amount) (bs : Bytes) : Bytes :=
  match amount with
  | .bytes n => bs.drop (bs.length - n)
  | .lines n =>
    let ls := splitLines bs
    joinByteLines (ls.drop (ls.length - n))

def excerpt (part : Amount → Bytes → Bytes) : Program := fun p w =>
  let (amount, names) := amountOption (.lines 10) p.args
  let (bs, status, w) := inputBytes p names w
  (status, p.write 1 (part amount bs) w)

def byteOrder : Bytes → Bytes → Bool
  | [], _ => true
  | _ :: _, [] => false
  | a :: as, b :: bs => if a = b then byteOrder as bs else a < b

def dropRepeats : List Bytes → List Bytes
  | a :: b :: r => if a = b then dropRepeats (b :: r) else a :: dropRepeats (b :: r)
  | r => r

def sort : Program := fun p w =>
  let (bs, status, w) := inputBytes p (plainWords p.args) w
  let ls := (splitLines bs).mergeSort byteOrder
  let ls := if "-u" ∈ p.args then dropRepeats ls else ls
  let ls := if "-r" ∈ p.args then ls.reverse else ls
  (status, p.write 1 (joinByteLines ls) w)

def countWords (bs : Bytes) : Nat :=
  let blank := fun b : UInt8 => b = 32 || (9 ≤ b && b ≤ 13)
  (bs.foldl (fun (acc : Nat × Bool) b =>
    if blank b then (acc.1, false) else (if acc.2 then acc.1 else acc.1 + 1, true)) (0, false)).1

/-- Counts of one input: a single count alone, three in columns as wide as the number of bytes,
or seven wide where that is not known beforehand. -/
def wc : Program := fun p w =>
  let names := plainWords p.args
  let (bs, status, w) := inputBytes p names w
  let width := if names.isEmpty then 7 else (toString bs.length).length
  let column := fun n : Nat =>
    String.ofList (List.replicate (width - (toString n).length) ' ') ++ toString n
  let text := match p.args.find? (· ∉ names) with
    | some "-l" => toString (bs.count 10)
    | some "-w" => toString (countWords bs)
    | some "-c" => toString bs.length
    | _ => " ".intercalate ([bs.count 10, countWords bs, bs.length].map column)
  let text := match names with
    | [name] => text ++ " " ++ name
    | _ => text
  (status, p.say 1 (text ++ "\n") w)

def eachPath (paths : List String) (p : Process) (w : World)
    (change : FileTree → String → Except String FileTree) : Nat × World :=
  paths.foldl (fun (acc : Nat × World) path =>
    match change acc.2.tree path with
    | .ok t => (acc.1, { acc.2 with tree := t })
    | .error e => (1, p.complain e acc.2)) (0, w)

def quoted (s : String) : String :=
  "'" ++ s ++ "'"

def mkdir : Program := fun p w =>
  let deep := p.args.any fun a => a = "-p" || a = "--parents"
  eachPath (plainWords p.args) p w fun t path =>
    let refusal := fun e : OsError =>
      "cannot create directory " ++ quoted path ++ ": " ++ e.text
    if deep then
      match t.makeDirs p.here path with
      | (t, none) => .ok t
      | (_, some e) => .error (refusal e)
    else (t.makeDir p.here path).mapError refusal

def touch : Program := fun p w =>
  eachPath (plainWords p.args) p w fun t path =>
    if t.pathExists p.here path then .ok t
    else (t.write p.here path .empty false).mapError fun e =>
      "cannot touch " ++ quoted path ++ ": " ++ e.text

def hasLetter (args : List String) (c : Char) : Bool :=
  args.any fun a => match a.toList with
    | '-' :: '-' :: _ => false
    | '-' :: cs => c ∈ cs
    | _ => false

def rm : Program := fun p w =>
  let deep := hasLetter p.args 'r' || hasLetter p.args 'R'
  let force := hasLetter p.args 'f'
  eachPath (plainWords p.args) p w fun t path =>
    let refusal := fun text : String => "cannot remove " ++ quoted path ++ ": " ++ text
    match t.locate false p.here path with
    | .ok ⟨l, some .directory⟩ =>
      if deep then .ok (t.remove l) else .error (refusal "Is a directory")
    | .ok ⟨_, some .closed⟩ =>
      .error (refusal (if deep then "Permission denied" else "Is a directory"))
    | .ok ⟨l, some _⟩ => .ok (t.remove l)
    | .ok ⟨_, none⟩ => if force then .ok t else .error (refusal "No such file or directory")
    | .error e => if force && e = .notFound then .ok t else .error (refusal e.text)

def rmdir : Program := fun p w =>
  eachPath (plainWords p.args) p w fun t path =>
    let refusal := fun text : String => "failed to remove " ++ quoted path ++ ": " ++ text
    match t.locate false p.here path with
    | .ok ⟨l, some .directory⟩ | .ok ⟨l, some .closed⟩ =>
      if (t.children l).isEmpty then .ok (t.remove l)
      else .error (refusal "Directory not empty")
    | .ok ⟨_, some _⟩ => .error (refusal "Not a directory")
    | .ok ⟨_, none⟩ => .error (refusal "No such file or directory")
    | .error e => .error (refusal e.text)

def targetFor (t : FileTree) (here : Location) (source target : String) : String :=
  if t.isDirectory here target then Path.join target (baseName source "") else target

def ln : Program := fun p w =>
  match plainWords p.args with
  | [target, name] =>
    let path := targetFor w.tree p.here target name
    let t := if hasLetter p.args 'f' then
        match w.tree.locate false p.here path with
        | .ok ⟨l, some (.link _)⟩ => w.tree.remove l
        | .ok ⟨l, some (.file _ _)⟩ => w.tree.remove l
        | .ok ⟨l, some .locked⟩ => w.tree.remove l
        | _ => w.tree
      else w.tree
    match t.makeLink p.here path target with
    | .ok t => (0, { w with tree := t })
    | .error e =>
      (1, p.complain ("failed to create symbolic link " ++ quoted path ++ ": " ++ e.text) w)
  | _ => (1, p.complain "missing file operand" w)

def copyTo (p : Process) (t : FileTree) (source target : String) : Except String FileTree :=
  match t.find p.here source with
  | .ok (_, .file content mode) =>
    let path := targetFor t p.here source target
    (t.write p.here path content mode).mapError fun e =>
      "cannot create regular file " ++ quoted path ++ ": " ++ e.text
  | .ok (_, .directory) | .ok (_, .closed) =>
    .error ("-r not specified; omitting directory " ++ quoted source)
  | .ok _ => .error ("cannot copy " ++ quoted source)
  | .error e => .error ("cannot stat " ++ quoted source ++ ": " ++ e.text)

def cp : Program := fun p w =>
  let words := plainWords p.args
  match words.getLast? with
  | some target => eachPath words.dropLast p w fun t source => copyTo p t source target
  | none => (1, p.complain "missing file operand" w)

def relocate (t : FileTree) (source target : Location) : FileTree :=
  let moved := t.nodes.filterMap fun e =>
    if source.isPrefixOf e.1 then some (target ++ e.1.drop source.length, e.2) else none
  ⟨((t.remove source).remove target).nodes ++ moved⟩

def moveTo (p : Process) (t : FileTree) (source target : String) : Except String FileTree :=
  let path := targetFor t p.here source target
  match t.locate false p.here source, t.locate false p.here path with
  | .ok ⟨a, some _⟩, .ok ⟨b, _⟩ => .ok (if a = b then t else relocate t a b)
  | .ok ⟨_, some _⟩, .error e =>
    .error ("cannot move " ++ quoted source ++ " to " ++ quoted path ++ ": " ++ e.text)
  | .error e, _ => .error ("cannot stat " ++ quoted source ++ ": " ++ e.text)
  | _, _ => .error ("cannot stat " ++ quoted source ++ ": No such file or directory")

def mv : Program := fun p w =>
  let words := plainWords p.args
  match words.getLast? with
  | some target => eachPath words.dropLast p w fun t source => moveTo p t source target
  | none => (1, p.complain "missing file operand" w)

def setMode (executable : Bool) (p : Process) (t : FileTree) (path : String) :
    Except String FileTree :=
  match t.find p.here path with
  | .ok (l, .file content _) => .ok (t.put l (.file content executable))
  | .ok _ => .ok t
  | .error e => .error ("cannot access " ++ quoted path ++ ": " ++ e.text)

def modeRuns (mode : String) : Bool :=
  match mode.toList with
  | cs => if cs.all Char.isDigit then cs.any fun c => (c.toNat - '0'.toNat) % 2 = 1
    else '+' ∈ cs && 'x' ∈ cs

def chmod : Program := fun p w =>
  match p.args with
  | mode :: paths => eachPath paths p w (setMode (modeRuns mode) p)
  | [] => (1, p.complain "missing operand" w)

def listDirectory (p : Process) (t : FileTree) (all itself : Bool) (path : String) :
    Except String (List String) :=
  match t.find p.here path with
  | .ok (l, .directory) =>
    let names := (t.children l).map (·.1)
    let names := names.filter fun n => all || !(n.toList.head? == some '.')
    .ok ((if itself then [".", ".."] else []) ++ names.mergeSort fun a b => decide (a ≤ b))
  | .ok (_, .closed) => .error ("cannot open directory " ++ quoted path ++ ": Permission denied")
  | .ok _ => .ok [path]
  | .error e => .error ("cannot access " ++ quoted path ++ ": " ++ e.text)

def ls : Program := fun p w =>
  let itself := hasLetter p.args 'a'
  let all := itself || hasLetter p.args 'A'
  let paths := match plainWords p.args with
    | [] => ["."]
    | ps => ps
  paths.foldl (fun (acc : Nat × World) path =>
    match listDirectory p acc.2.tree all itself path with
    | .ok names => (acc.1, p.say 1 (String.join (names.map (· ++ "\n"))) acc.2)
    | .error e => (2, p.complain e acc.2)) (0, w)

def tee : Program := fun p w =>
  let (bs, w) := p.readAll w
  let w := p.write 1 bs w
  eachPath (plainWords p.args) p w fun t path =>
    let r := if hasLetter p.args 'a' then t.append p.here path ⟨bs.toArray⟩
      else t.write p.here path ⟨bs.toArray⟩ false
    r.mapError fun e => path ++ ": " ++ e.text

def seq : Program := fun p w =>
  let numbers := p.args.map fun a => (Arithmetic.signedOf? a).getD 0
  let range := fun (first step last : Int) =>
    if step = 0 then [] else
      (List.range ((last - first) / step + 1).toNat).map fun (i : Nat) => first + step * (i : Int)
  let values := match numbers with
    | [last] => range 1 1 last
    | [first, last] => range first 1 last
    | [first, step, last] => range first step last
    | _ => []
  (0, p.say 1 (String.join (values.map fun n => toString n ++ "\n")) w)

def pwd : Program := fun p w =>
  (0, p.say 1 (FileTree.pathOf p.here ++ "\n") w)

def realpath : Program := fun p w =>
  let paths := plainWords p.args
  paths.foldl (fun (acc : Nat × World) path =>
    match acc.2.tree.canonical p.here path with
    | .ok s => (acc.1, p.say 1 (s ++ "\n") acc.2)
    | .error e => (1, p.complain (path ++ ": " ++ e.text) acc.2)) (0, w)

def readlink : Program := fun p w =>
  if hasLetter p.args 'f' || hasLetter p.args 'e' then realpath p w
  else
    (plainWords p.args).foldl (fun (acc : Nat × World) path =>
      match acc.2.tree.locate false p.here path with
      | .ok ⟨_, some (.link target)⟩ => (acc.1, p.say 1 (target ++ "\n") acc.2)
      | _ => (1, acc.2)) (0, w)

def succeed : Program := fun _ w => (0, w)

def fail : Program := fun _ w => (1, w)

def ofName? : String → Option Program
  | "basename" => some basename
  | "dirname" => some dirname
  | "echo" => some echo
  | "printf" => some printfProgram
  | "test" => some (testProgram false)
  | "[" => some (testProgram true)
  | "cat" => some cat
  | "head" => some (excerpt firstOf)
  | "tail" => some (excerpt lastOf)
  | "sort" => some sort
  | "wc" => some wc
  | "mkdir" => some mkdir
  | "rmdir" => some rmdir
  | "rm" => some rm
  | "touch" => some touch
  | "ln" => some ln
  | "cp" => some cp
  | "mv" => some mv
  | "chmod" => some chmod
  | "ls" => some ls
  | "tee" => some tee
  | "seq" => some seq
  | "pwd" => some pwd
  | "realpath" => some realpath
  | "readlink" => some readlink
  | "sleep" => some succeed
  | "sync" => some succeed
  | "true" => some succeed
  | "false" => some fail
  | _ => none

def names : List String :=
  ["sh", "dash", "env", "basename", "dirname", "echo", "printf", "test", "[", "cat", "head",
    "tail", "sort", "wc", "mkdir", "rmdir", "rm", "touch", "ln", "cp", "mv", "chmod", "ls", "tee",
    "seq", "pwd", "realpath", "readlink", "sleep", "sync", "true", "false"]

end Utility

end OrderedBuild.Shell
