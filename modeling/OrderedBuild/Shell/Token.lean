import OrderedBuild.Text.Affix

namespace OrderedBuild.Shell

inductive TokenKind where
  | word (text : List Char)
  | operator (text : String)
  /-- Digits right before a redirection. -/
  | number (n : Nat)
  /-- The lines given in place of a file. -/
  | hereDocument (body : List Char) (expands : Bool)
  /-- The text cannot be read any further. -/
  | bad (message : String)
  | ended
deriving DecidableEq, Repr

structure Token where
  line : Nat
  kind : TokenKind
deriving DecidableEq, Repr

/-- What a character of a word stands in. -/
inductive Nesting where
  | single
  | double
  | back
  | paren
  | brace (inDouble : Bool)
deriving DecidableEq, Repr

def isBlank (c : Char) : Bool :=
  c = ' ' || c = '\t'

def endsWord (c : Char) : Bool :=
  isBlank c || c ∈ ['\n', ';', '&', '|', '<', '>', '(', ')']

/-- The nesting after a character that is neither escaped nor the second of a pair. -/
def Nesting.after (stack : List Nesting) (c : Char) : List Nesting :=
  match stack, c with
  | .single :: s, '\'' => s
  | .single :: s, _ => .single :: s
  | .back :: s, '\x60' => s
  | .back :: s, _ => .back :: s
  | .double :: s, '"' => s
  | .double :: s, '\x60' => .back :: .double :: s
  | .double :: s, _ => .double :: s
  | .paren :: s, ')' => s
  | .paren :: s, '(' => .paren :: .paren :: s
  | .brace _ :: s, '\x7d' => s
  | .brace true :: s, '\'' => .brace true :: s
  | s, '\'' => .single :: s
  | s, '"' => .double :: s
  | s, '\x60' => .back :: s
  | s, _ => s

def Nesting.escapes : List Nesting → Bool
  | .single :: _ => false
  | _ => true

def Nesting.substitutes : List Nesting → Bool
  | .single :: _ => false
  | .back :: _ => false
  | _ => true

def Nesting.openBrace (stack : List Nesting) : Nesting :=
  .brace (stack.any fun n => n = .double || n = .brace true)

/-- Takes characters until, outside all quotes and substitutions, `ends` holds of the next one.
Fails with the nesting left open if the text ends first. -/
def scan (ends : Char → Bool) (stack : List Nesting) :
    List Char → Except (List Nesting) (List Char × List Char)
  | [] => if stack.isEmpty then .ok ([], []) else .error stack
  | '\\' :: c :: r =>
    if stack.isEmpty && ends '\\' then .ok ([], '\\' :: c :: r)
    else if Nesting.escapes stack then (scan ends stack r).map fun p => ('\\' :: c :: p.1, p.2)
    else (scan ends stack (c :: r)).map fun p => ('\\' :: p.1, p.2)
  | '$' :: '(' :: r =>
    if stack.isEmpty && ends '$' then .ok ([], '$' :: '(' :: r)
    else
      let stack := if Nesting.substitutes stack then .paren :: stack else stack
      (scan ends stack r).map fun p => ('$' :: '(' :: p.1, p.2)
  | '$' :: '\x7b' :: r =>
    if stack.isEmpty && ends '$' then .ok ([], '$' :: '\x7b' :: r)
    else
      let stack := if Nesting.substitutes stack then Nesting.openBrace stack :: stack else stack
      (scan ends stack r).map fun p => ('$' :: '\x7b' :: p.1, p.2)
  | c :: r =>
    if stack.isEmpty && ends c then .ok ([], c :: r)
    else (scan ends (Nesting.after stack c) r).map fun p => (c :: p.1, p.2)

def enclosed? (n : Nesting) (cs : List Char) : Option (List Char × List Char) :=
  match scan (fun _ => true) [n] cs with
  | .ok (inside, rest) => some (inside.dropLast, rest)
  | .error _ => none

def openMessage : List Nesting → String
  | .single :: _ => "Unterminated quoted string"
  | .double :: _ => "Unterminated quoted string"
  | .back :: _ => "EOF in backquote substitution"
  | .paren :: _ => "end of file unexpected (expecting \")\")"
  | _ => "Missing '\x7d'"

def operators : List String :=
  ["&&", "||", ";;", "<<-", "<<", ">>", "<&", ">&", "<>", ">|", ";", "&", "|", "(", ")", "<", ">"]

def operator? (cs : List Char) : Option (String × List Char) :=
  operators.findSome? fun op =>
    if op.toList.isPrefixOf cs then some (op, cs.drop op.toList.length) else none

def unquote : List Char → List Char × Bool
  | [] => ([], false)
  | '\\' :: c :: r => (c :: (unquote r).1, true)
  | c :: r =>
    let (s, quoted) := unquote r
    if c = '\'' || c = '"' then (s, true) else (c :: s, quoted)

def takeDocument (delimiter : List Char) (stripTabs : Bool) :
    List (List Char) → List (List Char) × List (List Char)
  | [] => ([], [])
  | l :: ls =>
    let l' := if stripTabs then l.dropWhile (· = '\t') else l
    if l' = delimiter then ([], ls)
    else
      let (body, rest) := takeDocument delimiter stripTabs ls
      (l' :: body, rest)

def joinLines (ls : List (List Char)) : List Char :=
  ['\n'].intercalate ls

def hereDocument (delimiter : List Char) (stripTabs : Bool) (cs : List Char) :
    List Char × List Char :=
  match Text.splitChars '\n' cs with
  | [] => ([], [])
  | line :: later =>
    let (body, rest) := takeDocument delimiter stripTabs later
    (body.flatMap (· ++ ['\n']), joinLines (line :: rest))

def countLines (cs : List Char) : Nat :=
  cs.count '\n'

def allDigits (cs : List Char) : Bool :=
  !cs.isEmpty && cs.all Char.isDigit

def digitsValue (cs : List Char) : Nat :=
  cs.foldl (fun n d => n * 10 + (d.toNat - '0'.toNat)) 0

def beginsRedirection : List Char → Bool
  | '<' :: _ => true
  | '>' :: _ => true
  | _ => false

def inLine (c : Char) : Bool :=
  c ≠ '\n'

/-- A here document takes the delimiter word and the lines after this one off the text. -/
def hereToken (line : Nat) (stripTabs : Bool) (cs : List Char) : Token × List Char :=
  match scan endsWord [] (cs.dropWhile isBlank) with
  | .error stack => (⟨line, .bad (openMessage stack)⟩, [])
  | .ok (word, rest) =>
    let (delimiter, quoted) := unquote word
    let (body, rest) := hereDocument delimiter stripTabs rest
    (⟨line, .hereDocument body (!quoted)⟩, rest)

def wordToken (line : Nat) (text rest : List Char) : Token :=
  if allDigits text && beginsRedirection rest then ⟨line, .number (digitsValue text)⟩
  else ⟨line, .word text⟩

def tokensFrom (line : Nat) (cs : List Char) : List Token :=
  match cs with
  | [] => [⟨line, .ended⟩]
  | '\\' :: '\n' :: r => tokensFrom (line + 1) r
  | '\n' :: r => ⟨line, .operator "\n"⟩ :: tokensFrom (line + 1) r
  | c :: r =>
    if isBlank c then tokensFrom line r
    else if c = '#' then
      have : (r.dropWhile inLine).length ≤ r.length := (List.dropWhile_sublist _).length_le
      tokensFrom line (r.dropWhile inLine)
    else match operator? (c :: r) with
      | some (op, rest) =>
        if op = "<<" || op = "<<-" then
          let (t, rest) := hereToken line (op = "<<-") rest
          ⟨line, .operator op⟩ :: t ::
            if rest.length ≤ r.length then tokensFrom line rest else []
        else
          ⟨line, .operator op⟩ ::
            if rest.length ≤ r.length then tokensFrom line rest else []
      | none =>
        match scan endsWord [] (c :: r) with
        | .error stack => [⟨line + countLines r, .bad (openMessage stack)⟩]
        | .ok (text, rest) =>
          wordToken line text rest ::
            if rest.length ≤ r.length then tokensFrom (line + countLines text) rest else []
termination_by cs.length

def tokens (text : String) : List Token :=
  tokensFrom 1 text.toList

end OrderedBuild.Shell
