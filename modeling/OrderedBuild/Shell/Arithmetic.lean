namespace OrderedBuild.Shell.Arithmetic

inductive Lexeme where
  | number (n : Int)
  | name (s : String)
  | operator (s : String)
deriving DecidableEq, Repr

def operators : List String :=
  ["<<", ">>", "<=", ">=", "==", "!=", "&&", "||", "+=", "-=", "*=", "/=", "%=", "+", "-", "*",
    "/", "%", "(", ")", "<", ">", "!", "~", "&", "|", "^", "?", ":", "="]

def modulus : Nat := 18446744073709551616

def wrap (n : Int) : Int :=
  n.bmod modulus

def isNameStart (c : Char) : Bool :=
  c.isAlpha || c = '_'

def isNameChar (c : Char) : Bool :=
  c.isAlphanum || c = '_'

def digitOf (c : Char) : Nat :=
  if c.isDigit then c.toNat - '0'.toNat else c.toLower.toNat - 'a'.toNat + 10

def valueIn (base : Nat) (ds : List Char) : Option Int :=
  if ds.isEmpty || ds.any (fun c => !c.isAlphanum || base ≤ digitOf c) then none
  else some (wrap (ds.foldl (fun n d => n * base + digitOf d) 0 : Nat))

/-- Numbers are decimal, or octal after a zero, or hexadecimal after a zero and an x. -/
def numberOf? : List Char → Option Int
  | '0' :: 'x' :: ds => valueIn 16 ds
  | '0' :: 'X' :: ds => valueIn 16 ds
  | '0' :: d :: ds => valueIn 8 (d :: ds)
  | ds => valueIn 10 ds

def signedOf? (s : String) : Option Int :=
  let blank := fun c : Char => c = ' ' || c = '\t' || c = '\n'
  let cs := ((s.toList.dropWhile blank).reverse.dropWhile blank).reverse
  match cs with
  | '-' :: ds => (numberOf? ds).map (- ·)
  | '+' :: ds => numberOf? ds
  | ds => numberOf? ds

def lexemes : Nat → List Char → Option (List Lexeme)
  | 0, cs => if cs.isEmpty then some [] else none
  | _, [] => some []
  | fuel + 1, c :: r =>
    if c = ' ' || c = '\t' || c = '\n' then lexemes fuel r
    else if c.isDigit then do
      let (ds, rest) := (c :: r).span isNameChar
      return .number (← numberOf? ds) :: (← lexemes fuel rest)
    else if isNameStart c then do
      let (cs, rest) := (c :: r).span isNameChar
      return .name (String.ofList cs) :: (← lexemes fuel rest)
    else do
      let op ← operators.find? fun op => op.toList.isPrefixOf (c :: r)
      return .operator op :: (← lexemes fuel ((c :: r).drop op.length))

def strength? : String → Option Nat
  | "||" => some 1
  | "&&" => some 2
  | "|" => some 3
  | "^" => some 4
  | "&" => some 5
  | "==" => some 6
  | "!=" => some 6
  | "<" => some 7
  | ">" => some 7
  | "<=" => some 7
  | ">=" => some 7
  | "<<" => some 8
  | ">>" => some 8
  | "+" => some 9
  | "-" => some 9
  | "*" => some 10
  | "/" => some 10
  | "%" => some 10
  | _ => none

def truth (b : Bool) : Int :=
  if b then 1 else 0

def bits (n : Int) : Nat :=
  (n.emod modulus).toNat

inductive Fault where
  | notUnderstood
  | dividesByZero
  | notANumber (s : String)
deriving DecidableEq, Repr

def combine (op : String) (a b : Int) : Except Fault Int :=
  match op with
  | "+" => .ok (wrap (a + b))
  | "-" => .ok (wrap (a - b))
  | "*" => .ok (wrap (a * b))
  | "/" => if b = 0 then .error .dividesByZero else .ok (wrap (a.tdiv b))
  | "%" => if b = 0 then .error .dividesByZero else .ok (wrap (a.tmod b))
  | "<<" => .ok (wrap (a * (1 <<< (bits b % 64) : Nat)))
  | ">>" => .ok (a.fdiv (1 <<< (bits b % 64) : Nat))
  | "<" => .ok (truth (a < b))
  | ">" => .ok (truth (a > b))
  | "<=" => .ok (truth (a ≤ b))
  | ">=" => .ok (truth (a ≥ b))
  | "==" => .ok (truth (a = b))
  | "!=" => .ok (truth (a ≠ b))
  | "&" => .ok (wrap (Nat.land (bits a) (bits b)))
  | "|" => .ok (wrap (Nat.lor (bits a) (bits b)))
  | "^" => .ok (wrap (Nat.xor (bits a) (bits b)))
  | "&&" => .ok (truth (a ≠ 0 && b ≠ 0))
  | "||" => .ok (truth (a ≠ 0 || b ≠ 0))
  | _ => .error .notUnderstood

def assigning? : String → Option (Option String)
  | "=" => some none
  | "+=" => some (some "+")
  | "-=" => some (some "-")
  | "*=" => some (some "*")
  | "/=" => some (some "/")
  | "%=" => some (some "%")
  | _ => none

structure Progress where
  rest : List Lexeme
  assigned : List (String × Int)

abbrev Reading := StateT Progress (Except Fault)

namespace Reading

def peek : Reading (Option Lexeme) := do
  return (← get).rest.head?

def advance : Reading Unit :=
  modify fun p => { p with rest := p.rest.tail }

/-- A name is worth what was assigned to it, else what it is outside; nothing is worth zero. -/
def valueOf (outside : String → Option String) (name : String) : Reading Int := do
  match (← get).assigned.lookup name with
  | some n => return n
  | none =>
    match outside name with
    | none => return 0
    | some s =>
      if s = "" then return 0
      match signedOf? s with
      | some n => return n
      | none => throw (.notANumber s)

mutual

def expression (outside : String → Option String) : Nat → Reading Int
  | 0 => throw .notUnderstood
  | fuel + 1 => do
    match (← get).rest with
    | .name x :: .operator op :: _ =>
      match assigning? op with
      | some change =>
        advance
        advance
        let n ← expression outside fuel
        let n ← match change with
          | none => pure n
          | some op => combine op (← valueOf outside x) n
        modify fun p => { p with assigned := (x, n) :: p.assigned }
        return n
      | none => choice outside fuel
    | _ => choice outside fuel

def choice (outside : String → Option String) : Nat → Reading Int
  | 0 => throw .notUnderstood
  | fuel + 1 => do
    let test ← binary outside fuel 1
    if (← peek) == some (.operator "?") then
      advance
      let yes ← expression outside fuel
      if (← peek) != some (.operator ":") then throw .notUnderstood
      advance
      let no ← expression outside fuel
      return if test = 0 then no else yes
    else return test

/-- Operators that bind at least as tightly as `least`. -/
def binary (outside : String → Option String) : Nat → Nat → Reading Int
  | 0, _ => throw .notUnderstood
  | fuel + 1, least => do
    let a ← unary outside fuel
    binaryRest outside fuel least a

def binaryRest (outside : String → Option String) : Nat → Nat → Int → Reading Int
  | 0, _, _ => throw .notUnderstood
  | fuel + 1, least, a => do
    match ← peek with
    | some (.operator op) =>
      match strength? op with
      | some k =>
        if k < least then return a
        advance
        let b ← binary outside fuel (k + 1)
        binaryRest outside fuel least (← combine op a b)
      | none => return a
    | _ => return a

def unary (outside : String → Option String) : Nat → Reading Int
  | 0 => throw .notUnderstood
  | fuel + 1 => do
    let l ← peek
    advance
    match l with
    | some (.number n) => return n
    | some (.name x) => valueOf outside x
    | some (.operator "-") => return wrap (-(← unary outside fuel))
    | some (.operator "+") => unary outside fuel
    | some (.operator "!") => return truth ((← unary outside fuel) = 0)
    | some (.operator "~") => return wrap (-(← unary outside fuel) - 1)
    | some (.operator "(") =>
      let n ← expression outside fuel
      if (← peek) != some (.operator ")") then throw .notUnderstood
      advance
      return n
    | _ => throw .notUnderstood

end

end Reading

/-- The value of a whole text, and the variables that it sets, latest first; an empty text is
zero. -/
def evaluate (outside : String → Option String) (text : List Char) :
    Except Fault (Int × List (String × Int)) := do
  match lexemes (text.length + 1) text with
  | none => throw .notUnderstood
  | some [] => return (0, [])
  | some ls =>
    let (n, p) ← (Reading.expression outside (10 * ls.length + 10)).run ⟨ls, []⟩
    if p.rest.isEmpty then return (n, p.assigned) else throw .notUnderstood

def Fault.message (text : String) : Fault → String
  | .notUnderstood => "arithmetic expression: expecting primary: \"" ++ text ++ "\""
  | .dividesByZero => "arithmetic expression: division by zero: \"" ++ text ++ "\""
  | .notANumber s => "Illegal number: " ++ s

end OrderedBuild.Shell.Arithmetic
