import OrderedBuild.Toml.Scan

namespace OrderedBuild.Toml

def isBlank (c : Char) : Bool :=
  c = ' ' || c = '\t'

def isPlain (c : Char) : Bool :=
  c = '\t' || (0x20 ≤ c.toNat && c.toNat ≠ 0x7F)

def blanks : Scan Unit :=
  discard (Scan.takeWhile isBlank)

def newline : Scan Unit :=
  Scan.word "\n" <|> Scan.word "\r\n"

def comment : Scan Unit := do
  Scan.char '#'
  discard (Scan.takeWhile isPlain)

def lineEnd : Scan Unit := do
  blanks
  discard (Scan.optional comment)
  newline <|> Scan.ended

def spacing : Scan Unit :=
  discard (Scan.many (discard (Scan.satisfy isBlank) <|> newline <|> (do comment; newline)))

def hexValue? (c : Char) : Option Nat :=
  if '0' ≤ c ∧ c ≤ '9' then some (c.toNat - '0'.toNat)
  else if 'a' ≤ c ∧ c ≤ 'f' then some (c.toNat - 'a'.toNat + 10)
  else if 'A' ≤ c ∧ c ≤ 'F' then some (c.toNat - 'A'.toNat + 10)
  else none

def codePoint? (digits : List Char) : Option Char := do
  let values ← digits.mapM hexValue?
  let n := values.foldl (fun n d => n * 16 + d) 0
  if n.isValidChar then some (Char.ofNat n) else none

def escape? : List Char → Option (Char × Nat)
  | 'b' :: _ => some ('\x08', 1)
  | 't' :: _ => some ('\t', 1)
  | 'n' :: _ => some ('\n', 1)
  | 'f' :: _ => some ('\x0c', 1)
  | 'r' :: _ => some ('\r', 1)
  | '"' :: _ => some ('"', 1)
  | '\\' :: _ => some ('\\', 1)
  | 'u' :: r => (codePoint? (r.take 4)).bind fun c => if 4 ≤ r.length then some (c, 5) else none
  | 'U' :: r => (codePoint? (r.take 8)).bind fun c => if 8 ≤ r.length then some (c, 9) else none
  | _ => none

def basicRest : Scan (List Char)
  | [] => none
  | '"' :: r => some ([], r)
  | '\\' :: r => do
    let (c, n) ← escape? r
    let (s, rest) ← basicRest (r.drop n)
    return (c :: s, rest)
  | c :: r => do
    if isPlain c then
      let (s, rest) ← basicRest r
      return (c :: s, rest)
    else none
termination_by cs => cs.length

def literalRest : Scan (List Char)
  | [] => none
  | '\'' :: r => some ([], r)
  | c :: r => do
    if isPlain c then
      let (s, rest) ← literalRest r
      return (c :: s, rest)
    else none

/-- How a long text ends: three quotes. Up to two more before them belong to the text. -/
def closing? (quote : Char) (cs : List Char) : Option (List Char × List Char) :=
  let run := (cs.takeWhile (· = quote)).length
  if run < 3 then none
  else
    let extra := min (run - 3) 2
    some (List.replicate extra quote, cs.drop (extra + 3))

/-- What follows a line end that is hidden by a backslash: blanks and line ends are dropped. -/
def dropSpace : List Char → List Char
  | ' ' :: r => dropSpace r
  | '\t' :: r => dropSpace r
  | '\n' :: r => dropSpace r
  | '\r' :: '\n' :: r => dropSpace r
  | r => r

theorem length_dropSpace_le (cs : List Char) : (dropSpace cs).length ≤ cs.length := by
  fun_induction dropSpace cs <;> grind

def afterHiddenEnd? (cs : List Char) : Option (List Char) :=
  match cs.dropWhile isBlank with
  | '\n' :: r => some (dropSpace r)
  | '\r' :: '\n' :: r => some (dropSpace r)
  | _ => none

theorem length_afterHiddenEnd?_le {cs r : List Char} (h : afterHiddenEnd? cs = some r) :
    r.length ≤ cs.length := by
  have hd : (cs.dropWhile isBlank).length ≤ cs.length := (List.dropWhile_sublist _).length_le
  unfold afterHiddenEnd? at h
  split at h
  · next s hs =>
    obtain rfl := Option.some.inj h
    have := length_dropSpace_le s
    rw [hs] at hd
    simp only [List.length_cons] at hd
    omega
  · next s hs =>
    obtain rfl := Option.some.inj h
    have := length_dropSpace_le s
    rw [hs] at hd
    simp only [List.length_cons] at hd
    omega
  · simp at h

def longBasicRest (cs : List Char) : Option (List Char × List Char) :=
  match closing? '"' cs with
  | some done => some done
  | none =>
    match cs with
    | [] => none
    | '\\' :: r =>
      match h : afterHiddenEnd? r with
      | some r' =>
        have := length_afterHiddenEnd?_le h
        longBasicRest r'
      | none => do
        let (c, n) ← escape? r
        let (s, rest) ← longBasicRest (r.drop n)
        return (c :: s, rest)
    | '\n' :: r => (longBasicRest r).map fun p => ('\n' :: p.1, p.2)
    | '\r' :: '\n' :: r => (longBasicRest r).map fun p => ('\n' :: p.1, p.2)
    | c :: r =>
      if isPlain c then (longBasicRest r).map fun p => (c :: p.1, p.2) else none
termination_by cs.length
decreasing_by
  all_goals simp only [List.length_cons, List.length_drop]; omega

def longLiteralRest (cs : List Char) : Option (List Char × List Char) :=
  match closing? '\'' cs with
  | some done => some done
  | none =>
    match cs with
    | [] => none
    | '\n' :: r => (longLiteralRest r).map fun p => ('\n' :: p.1, p.2)
    | '\r' :: '\n' :: r => (longLiteralRest r).map fun p => ('\n' :: p.1, p.2)
    | c :: r =>
      if isPlain c then (longLiteralRest r).map fun p => (c :: p.1, p.2) else none

def dropFirstEnd : List Char → List Char
  | '\n' :: r => r
  | '\r' :: '\n' :: r => r
  | r => r

def quotedText : Scan String
  | '"' :: '"' :: '"' :: r => (longBasicRest (dropFirstEnd r)).map (Prod.map String.ofList id)
  | '\'' :: '\'' :: '\'' :: r =>
    (longLiteralRest (dropFirstEnd r)).map (Prod.map String.ofList id)
  | '"' :: r => (basicRest r).map (Prod.map String.ofList id)
  | '\'' :: r => (literalRest r).map (Prod.map String.ofList id)
  | _ => none

def isBare (c : Char) : Bool :=
  c.isAlphanum || c = '_' || c = '-'

def keyPart : Scan String
  | '"' :: r => (basicRest r).map (Prod.map String.ofList id)
  | '\'' :: r => (literalRest r).map (Prod.map String.ofList id)
  | cs =>
    let (name, rest) := cs.span isBare
    if name.isEmpty then none else some (String.ofList name, rest)

def nestingLimit : Nat := 80

def key : Scan (List String) := do
  let parts ← Scan.separated (Scan.char '.') (do blanks; let part ← keyPart; blanks; return part)
  if parts.length < nestingLimit then return parts else failure

end OrderedBuild.Toml
