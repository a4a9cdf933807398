import OrderedBuild.Toml.Scan
import OrderedBuild.Toml.Value

namespace OrderedBuild.Toml

def digitValue (c : Char) : Nat :=
  if c.isDigit then c.toNat - '0'.toNat
  else if 'a' ≤ c then c.toNat - 'a'.toNat + 10
  else c.toNat - 'A'.toNat + 10

def isDigitIn (base : Nat) (c : Char) : Bool :=
  (c.isDigit || ('a' ≤ c && c ≤ 'f') || ('A' ≤ c && c ≤ 'F')) && digitValue c < base

def moreDigits (base : Nat) : List Char → Option (List Char × List Char)
  | '_' :: c :: r => do
    if isDigitIn base c then
      let (ds, rest) ← moreDigits base r
      return (c :: ds, rest)
    else none
  | c :: r => do
    if isDigitIn base c then
      let (ds, rest) ← moreDigits base r
      return (c :: ds, rest)
    else if c = '_' then none
    else return ([], c :: r)
  | [] => some ([], [])

def digits (base : Nat) : Scan (List Char) := do
  let first ← Scan.satisfy (isDigitIn base)
  let more ← moreDigits base
  return first :: more

def wholeDigits : Scan (List Char)
  | '0' :: r => some (['0'], r)
  | cs => digits 10 cs

def valueOf (base : Nat) (ds : List Char) : Nat :=
  ds.foldl (fun n d => n * base + digitValue d) 0

def isNegative (sign : Option Char) : Bool :=
  sign == some '-'

def sign? : Scan (Option Char) :=
  Scan.optional (Scan.satisfy fun c => c = '+' || c = '-')

def integerLimit : Nat := 9223372036854775808

def integer? (negative : Bool) (n : Nat) : Option Int :=
  if n < integerLimit then some (if negative then -(n : Int) else n)
  else if negative && n = integerLimit then some (-(n : Int))
  else none

def largestExponent : Int := 308

/-- Whether `m * 10 ^ e` is at least as near to `2 ^ 1024` as to the largest number of 53 bits
below it. -/
def overflows (m : Nat) (e : Int) : Bool :=
  if m = 0 then false
  else
    let top := (Nat.toDigits 10 m).length + e
    let least := ((1 <<< 54) - 1) <<< 970
    if top ≤ largestExponent then false
    else if largestExponent + 1 < top then true
    else if 0 ≤ e then least ≤ m * Nat.pow 10 e.toNat
    else least * Nat.pow 10 (-e).toNat ≤ m

def fraction? : Scan (Option (List Char)) := do
  match ← Scan.optional (Scan.char '.') with
  | none => return none
  | some _ => return some (← digits 10)

def exponent? : Scan (Option Int) := do
  match ← Scan.optional (Scan.satisfy fun c => c = 'e' || c = 'E') with
  | none => return none
  | some _ =>
    let sign ← sign?
    let n := valueOf 10 (← digits 10)
    return some (if isNegative sign then -(n : Int) else n)

/-- A decimal numeral after its sign: an integer, or `none` for another number. A negative number
may be as large as it likes. -/
def decimal (negative : Bool) : Scan (Option Int) := do
  let whole ← wholeDigits
  let fraction ← fraction?
  let exponent ← exponent?
  if fraction.isNone && exponent.isNone then
    return some (← integer? negative (valueOf 10 whole))
  let places := fraction.getD []
  if !negative && overflows (valueOf 10 (whole ++ places)) (exponent.getD 0 - places.length) then
    failure
  return none

def special : Scan (Option Int) := do
  Scan.word "inf" <|> Scan.word "nan"
  return none

def inBase (mark : String) (base : Nat) : Scan (Option Int) := do
  Scan.word mark
  return some (← integer? false (valueOf base (← digits base)))

def numeral : Scan (Option Int) := do
  let sign ← sign?
  match sign with
  | none => special <|> inBase "0x" 16 <|> inBase "0o" 8 <|> inBase "0b" 2 <|> decimal false
  | some _ => special <|> decimal (isNegative sign)

def number : Scan Toml := do
  let (value, written) ← Scan.spelled numeral
  return match value with
    | some n => .integer n
    | none => .float written

end OrderedBuild.Toml
