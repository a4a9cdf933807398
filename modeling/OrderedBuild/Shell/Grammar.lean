import OrderedBuild.Shell.Command
import OrderedBuild.Shell.Token

namespace OrderedBuild.Shell

structure Mistake where
  line : Nat
  message : String
deriving DecidableEq, Repr

abbrev Parse := StateT (List Token) (Except Mistake)

namespace Parse

def peek : Parse (Option TokenKind) := do
  return ((← get).head?.map Token.kind).filter (· ≠ .ended)

def advance : Parse Unit :=
  modify List.tail

def quoteToken (s : String) : String :=
  "\"" ++ s ++ "\""

def describe : Option TokenKind → String
  | none => "end of file"
  | some (.word _) => "word"
  | some (.operator "\n") => "newline"
  | some (.operator op) => quoteToken op
  | some (.number _) => "word"
  | some (.hereDocument _ _) => "word"
  | some (.bad message) => message
  | some .ended => "end of file"

def reservedWords : List String :=
  ["if", "then", "else", "elif", "fi", "do", "done", "for", "while", "until", "case", "esac",
    "\x7b", "\x7d", "!", "in"]

def describeToken (k : Option TokenKind) : String :=
  match k with
  | some (.word w) =>
    let w := String.ofList w
    if w ∈ reservedWords then quoteToken w else "word"
  | k => describe k

def unexpected {α : Type} (wanted : Option String) : Parse α := do
  let ts ← get
  let line := (ts.head?.map Token.line).getD 1
  match ts.head?.map Token.kind with
  | some (.bad message) => throw ⟨line, message⟩
  | k =>
    let hint := match wanted with
      | none => ""
      | some w => " (expecting " ++ quoteToken w ++ ")"
    throw ⟨line, describeToken k ++ " unexpected" ++ hint⟩

def isOperator (op : String) : Parse Bool := do
  return (← peek) == some (.operator op)

def isWord (w : String) : Parse Bool := do
  return (← peek) == some (.word w.toList)

def expectOperator (op : String) : Parse Unit := do
  if ← isOperator op then advance else unexpected (some op)

def expectWord (w : String) : Parse Unit := do
  if ← isWord w then advance else unexpected (some w)

def isNewline (t : Token) : Bool :=
  t.kind = .operator "\n"

def skipNewlines : Parse Unit :=
  modify (·.dropWhile isNewline)

def closingWords : List String :=
  ["then", "else", "elif", "fi", "do", "done", "esac", "\x7d"]

def atEnd : Parse Bool := do
  match ← peek with
  | none => return true
  | some (.operator op) => return op ∈ [")", ";;"]
  | some (.word w) => return String.ofList w ∈ closingWords
  | some _ => return false

def redirectOf? (op : String) : Option (Nat × RedirectKind) :=
  match op with
  | "<" => some (0, .read)
  | ">" => some (1, .write)
  | ">|" => some (1, .write)
  | ">>" => some (1, .append)
  | "<>" => some (0, .readWrite)
  | "<&" => some (0, .duplicate)
  | ">&" => some (1, .duplicate)
  | "<<" => some (0, .document true)
  | "<<-" => some (0, .document true)
  | _ => none

def redirect? : Parse (Option Redirect) := do
  let ts ← get
  let (given, ts') := match ts with
    | ⟨_, .number n⟩ :: r => (some n, r)
    | r => (none, r)
  match ts' with
  | ⟨_, .operator op⟩ :: r =>
    match redirectOf? op with
    | none => return none
    | some (usual, kind) =>
      match r with
      | ⟨_, .word w⟩ :: r =>
        set r
        return some ⟨given.getD usual, kind, w⟩
      | ⟨_, .number n⟩ :: r =>
        set r
        return some ⟨given.getD usual, kind, (toString n).toList⟩
      | ⟨_, .hereDocument body expands⟩ :: r =>
        set r
        return some ⟨given.getD usual, .document expands, body⟩
      | r =>
        set r
        unexpected none
  | _ => return none

def redirects : Nat → Parse (List Redirect)
  | 0 => return []
  | n + 1 => do
    match ← redirect? with
    | none => return []
    | some r => return r :: (← redirects n)

def simpleParts : Nat → Parse (List RawWord × List Redirect)
  | 0 => return ([], [])
  | n + 1 => do
    match ← redirect? with
    | some r =>
      let (ws, rs) ← simpleParts n
      return (ws, r :: rs)
    | none =>
      match ← peek with
      | some (.word w) =>
        advance
        let (ws, rs) ← simpleParts n
        return (w :: ws, rs)
      | some (.number k) =>
        advance
        let (ws, rs) ← simpleParts n
        return ((toString k).toList :: ws, rs)
      | _ => return ([], [])

def words : Nat → Parse (List RawWord)
  | 0 => return []
  | n + 1 => do
    match ← peek with
    | some (.word w) =>
      advance
      return w :: (← words n)
    | _ => return []

def patterns : Nat → Parse (List RawWord)
  | 0 => unexpected (some ")")
  | n + 1 => do
    match ← peek with
    | some (.word w) =>
      advance
      if ← isOperator "|" then
        advance
        return w :: (← patterns n)
      else return [w]
    | _ => unexpected (some ")")

def lineNumber : Parse Nat := do
  return ((← get).head?.map Token.line).getD 1

def anyWord : Parse RawWord := do
  match ← peek with
  | some (.word w) =>
    advance
    return w
  | _ => unexpected none

mutual

/-- Commands up to the end of a list, on one line or several. -/
def items : Nat → Parse (List Command)
  | 0 => unexpected none
  | n + 1 => do
    let c ← chain n
    let ended ← isOperator "&"
    let c := if ended then Command.background c else c
    if ended || (← isOperator ";") || (← isOperator "\n") then
      advance
      skipNewlines
      if ← atEnd then return [c]
      return c :: (← items n)
    return [c]

def block : Nat → Parse Command
  | 0 => unexpected none
  | n + 1 => do
    skipNewlines
    match ← items n with
    | [] => unexpected none
    | c :: cs => return .sequence c cs

def chain : Nat → Parse Command
  | 0 => unexpected none
  | n + 1 => do chainRest n (← pipeline n)

def chainRest : Nat → Command → Parse Command
  | 0, _ => unexpected none
  | n + 1, left => do
    if ← isOperator "&&" then
      advance
      skipNewlines
      chainRest n (.both left (← pipeline n))
    else if ← isOperator "||" then
      advance
      skipNewlines
      chainRest n (.either left (← pipeline n))
    else return left

def pipeline : Nat → Parse Command
  | 0 => unexpected none
  | n + 1 => do
    if ← isWord "!" then
      advance
      return .negate (← pipeline n)
    else pipeRest n (← command n)

def pipeRest : Nat → Command → Parse Command
  | 0, _ => unexpected none
  | n + 1, left => do
    if ← isOperator "|" then
      advance
      skipNewlines
      pipeRest n (.pipe left (← command n))
    else return left

/-- The rest of a choice, after its test has been announced. -/
def choice : Nat → Parse Command
  | 0 => unexpected none
  | n + 1 => do
    let test ← block n
    expectWord "then"
    let yes ← block n
    if ← isWord "elif" then
      advance
      return .choose test yes (some (← choice n))
    else if ← isWord "else" then
      advance
      let no ← block n
      expectWord "fi"
      return .choose test yes (some no)
    else
      expectWord "fi"
      return .choose test yes none

def doBlock : Nat → Parse Command
  | 0 => unexpected none
  | n + 1 => do
    expectWord "do"
    let body ← block n
    expectWord "done"
    return body

def forLoop : Nat → Parse Command
  | 0 => unexpected none
  | n + 1 => do
    let name := String.ofList (← anyWord)
    skipNewlines
    let list ← if ← isWord "in" then
        advance
        let ws ← words n
        if ← isOperator ";" then advance
        pure (some ws)
      else
        if ← isOperator ";" then advance
        pure none
    skipNewlines
    return .forEach name list (← doBlock n)

def arms : Nat → Parse (List (List RawWord × Option Command))
  | 0 => unexpected none
  | n + 1 => do
    skipNewlines
    if ← isWord "esac" then
      advance
      return []
    if ← isOperator "(" then advance
    let ps ← patterns n
    expectOperator ")"
    skipNewlines
    let body ← if (← isOperator ";;") || (← isWord "esac") then pure none
      else some <$> block n
    if ← isOperator ";;" then
      advance
      return (ps, body) :: (← arms n)
    expectWord "esac"
    return [(ps, body)]

def selection : Nat → Parse Command
  | 0 => unexpected none
  | n + 1 => do
    let w ← anyWord
    skipNewlines
    expectWord "in"
    return .select w (← arms n)

def redirected (n : Nat) (c : Command) : Parse Command := do
  match ← redirects n with
  | [] => return c
  | rs => return .redirected c rs

/-- A simple command, or a function if brackets follow its first word. -/
def plainCommand : Nat → Parse Command
  | 0 => unexpected none
  | n + 1 => do
    let line ← lineNumber
    match ← simpleParts n with
    | ([], []) => unexpected none
    | ([name], []) =>
      if ← isOperator "(" then
        advance
        expectOperator ")"
        skipNewlines
        return .define (String.ofList name) (← command n)
      else return .simple line [name] []
    | (ws, rs) => return .simple line ws rs

def command : Nat → Parse Command
  | 0 => unexpected none
  | n + 1 => do
    match ← peek with
    | some (.operator "(") =>
      advance
      let c ← block n
      expectOperator ")"
      redirected n (.subshell c)
    | some (.word w) =>
      match String.ofList w with
      | "if" => do advance; redirected n (← choice n)
      | "while" => do
        advance
        let test ← block n
        redirected n (.repeatWhile true test (← doBlock n))
      | "until" => do
        advance
        let test ← block n
        redirected n (.repeatWhile false test (← doBlock n))
      | "for" => do advance; redirected n (← forLoop n)
      | "case" => do advance; redirected n (← selection n)
      | "\x7b" => do
        advance
        let c ← block n
        expectWord "\x7d"
        redirected n c
      | other => if other ∈ closingWords then unexpected none else plainCommand n
    | _ => plainCommand n

end

def lineItems : Nat → Parse (List Command)
  | 0 => unexpected none
  | n + 1 => do
    let fuel := 8 * (← get).length + 8
    let c ← chain fuel
    let ended ← isOperator "&"
    let c := if ended then Command.background c else c
    if ended || (← isOperator ";") then
      advance
      match ← peek with
      | none => return [c]
      | some (.operator "\n") => return [c]
      | _ => return c :: (← lineItems n)
    match ← peek with
    | none => return [c]
    | some (.operator "\n") => return [c]
    | _ => unexpected none

def nextLine : Parse (Option Command) := do
  skipNewlines
  match ← peek with
  | none => return none
  | some _ =>
    match ← lineItems (← get).length with
    | [] => return none
    | c :: cs => return some (.sequence c cs)

end Parse

end OrderedBuild.Shell
