import OrderedBuild.CommandLine.Command

namespace OrderedBuild

def countLimit : Nat := 18446744073709551616

def mostTallied : Nat := 255

def count? (s : String) : Option Nat :=
  let ds := match s.toList with
    | '+' :: ds => ds
    | ds => ds
  if ds.isEmpty || !ds.all Char.isDigit then none
  else
    let n := ds.foldl (fun n d => n * 10 + (d.toNat - '0'.toNat)) 0
    if n < countLimit then some n else none

def ValueKind.read (value : String) : ValueKind → Except Stop MatchValue
  | .text => .ok (.text value)
  | .path => if value = "" then .error .invalidValue else .ok (.text value)
  | .count =>
    match count? value with
    | none => .error .badCount
    | some n => .ok (.count n)

/-- An option that has been named, and the word after it as its value. It takes effect only when
the next option or free word comes. -/
structure Pending where
  option : CommandOption
  kind : ValueKind
  value : Option String

structure Reading where
  given : List (String × MatchValue) := []
  pending : Option Pending := none

namespace Reading

def store (given : List (String × MatchValue)) (o : CommandOption) (kind : ValueKind)
    (value : String) : Except Stop (List (String × MatchValue)) :=
  if (given.lookup o.name).isSome then .error .repeated
  else (kind.read value).map fun v => given ++ [(o.name, v)]

def tally (given : List (String × MatchValue)) (name : String) : List (String × MatchValue) :=
  let n := match given.lookup name with
    | some (.count n) => n
    | _ => 0
  given.filter (·.1 ≠ name) ++ [(name, .count (min (n + 1) mostTallied))]

def switch (given : List (String × MatchValue)) (o : CommandOption) :
    Switch → Except Stop (List (String × MatchValue))
  | .flag =>
    if (given.lookup o.name).isSome then .error .repeated else .ok (given ++ [(o.name, .flag)])
  | .tally => .ok (tally given o.name)
  | .help => .error .help
  | .version => .error .version

def settle (r : Reading) : Except Stop (List (String × MatchValue)) :=
  match r.pending with
  | none => .ok r.given
  | some ⟨_, _, none⟩ => .error .invalidValue
  | some ⟨o, kind, some value⟩ => store r.given o kind value

/-- Reads a cluster of letters. A letter that takes a value takes the letters after it. -/
def readLetters (given : List (String × MatchValue)) :
    List CommandOption → List Char → Except Stop Reading
  | [], _ => .ok ⟨given, none⟩
  | o :: os, letters =>
    match o.action with
    | .switch s => do readLetters (← switch given o s) os letters.tail
    | .setting kind =>
      if os.isEmpty then .ok ⟨given, some ⟨o, kind, none⟩⟩
      else do return ⟨← store given o kind (String.ofList letters.tail), none⟩

def readLong (r : Reading) (o : CommandOption) (value : Option String) : Except Stop Reading :=
  match o.action, value with
  | .switch _, some _ => .error .unexpectedValue
  | .switch s, none => do return ⟨← switch (← r.settle) o s, none⟩
  | .setting kind, some value => do return ⟨← store (← r.settle) o kind value, none⟩
  | .setting kind, none => do return ⟨← r.settle, some ⟨o, kind, none⟩⟩

end Reading

namespace Command

def long? (c : Command) (name : String) : Option CommandOption :=
  c.options.find? (·.long = name)

def letter? (c : Command) (l : Char) : Option CommandOption :=
  c.options.find? (·.short? = some l)

/-- A cluster of letters counts only if each of them is an option. A word after an option that
lacks its value is the value. -/
def role (c : Command) (r : Reading) (w : String) : WordRole Reading :=
  match w.toList with
  | ['-', '-'] => .separator
  | '-' :: '-' :: body =>
    let (name, rest) := body.span (· ≠ '=')
    match c.long? (String.ofList name) with
    | some o => .option (r.readLong o (rest.tail?.map String.ofList))
    | none => other r w
  | '-' :: l :: ls =>
    match (l :: ls).mapM c.letter? with
    | some os => .option (do Reading.readLetters (← r.settle) os (l :: ls))
    | none => other r w
  | _ => other r w
where
  other (r : Reading) (w : String) : WordRole Reading :=
    match r.pending with
    | some ⟨o, kind, none⟩ => .option (.ok ⟨r.given, some ⟨o, kind, some w⟩⟩)
    | _ => .free

/-- Options that were not given take their values from the environment. -/
def fillFrom (c : Command) (env : Env) (given : List (String × MatchValue)) :
    Except Stop (List (String × MatchValue)) :=
  c.options.foldlM (fun given o =>
    match o.action, given.lookup o.name, o.envName?.bind env.get? with
    | .setting kind, none, some value => Reading.store given o kind value
    | _, _, _ => .ok given) given

def reader (c : Command) : OptionReader where
  State := Reading
  start := {}
  role := c.role
  finish env r := do c.fillFrom env (← r.settle)

def parse : CommandParser :=
  fun c => c.reader.parse

end Command

end OrderedBuild
