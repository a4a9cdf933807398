import OrderedBuild.Shell.Arithmetic
import OrderedBuild.Text.Hex

namespace OrderedBuild.Shell

abbrev Bytes := List UInt8

def bytesOf (s : String) : Bytes :=
  s.toUTF8.toList

def bytesOfChars (cs : List Char) : Bytes :=
  bytesOf (String.ofList cs)

def isOctal (c : Char) : Bool :=
  '0' ≤ c && c ≤ '7'

def octalByte (ds : List Char) : UInt8 :=
  UInt8.ofNat (ds.foldl (fun n d => n * 8 + (d.toNat - '0'.toNat)) 0)

/-- The byte after a backslash, and how many characters name it; a backslash that begins no escape
stands for itself. -/
def escapeByte (cs : List Char) : UInt8 × Nat :=
  match cs with
  | 'a' :: _ => (7, 1)
  | 'b' :: _ => (8, 1)
  | 'e' :: _ => (27, 1)
  | 'f' :: _ => (12, 1)
  | 'n' :: _ => (10, 1)
  | 'r' :: _ => (13, 1)
  | 't' :: _ => (9, 1)
  | 'v' :: _ => (11, 1)
  | '\\' :: _ => (92, 1)
  | _ =>
    let ds := (cs.take 3).takeWhile isOctal
    if ds.isEmpty then (92, 0) else (octalByte ds, ds.length)

/-- Text with escapes: a `c` ends all output, and octal digits may follow a zero of their own. The
second part tells whether output goes on. -/
def escapedText : Nat → List Char → Bytes × Bool
  | _, [] => ([], true)
  | skip + 1, _ :: r => escapedText skip r
  | 0, '\\' :: 'c' :: _ => ([], false)
  | 0, '\\' :: r =>
    let zero := match r with
      | '0' :: d :: _ => isOctal d
      | _ => false
    let (b, used) := escapeByte (if zero then r.tail else r)
    let (bs, goesOn) := escapedText (if zero then used + 1 else used) r
    (b :: bs, goesOn)
  | 0, c :: r =>
    let (bs, goesOn) := escapedText 0 r
    (bytesOfChars [c] ++ bs, goesOn)

def echoBytes (words : List String) : Bytes :=
  let (words, ending) : List String × Bytes := match words with
    | "-n" :: ws => (ws, [])
    | ws => (ws, [10])
  let (bs, goesOn) := escapedText 0 (" ".intercalate words).toList
  if goesOn then bs ++ ending else bs

structure Directive where
  left : Bool
  zeros : Bool
  plus : Bool
  space : Bool
  alternate : Bool
  width : Nat
  precision : Option Nat

inductive FormatPart where
  | literal (bs : Bytes)
  | directive (d : Directive) (conversion : Char)

def numberAt (cs : List Char) : Nat × List Char :=
  let (ds, rest) := cs.span Char.isDigit
  (ds.foldl (fun n d => n * 10 + (d.toNat - '0'.toNat)) 0, rest)

def isFlag (c : Char) : Bool :=
  c ∈ ['-', '+', ' ', '#', '0']

def directiveOf (cs : List Char) : Option (FormatPart × List Char) :=
  let (flags, rest) := cs.span isFlag
  let (width, rest) := numberAt rest
  let (precision, rest) := match rest with
    | '.' :: r =>
      let (n, r) := numberAt r
      (some n, r)
    | r => (none, r)
  match rest with
  | [] => none
  | c :: r => some (.directive ⟨'-' ∈ flags, '0' ∈ flags, '+' ∈ flags, ' ' ∈ flags, '#' ∈ flags,
      width, precision⟩ c, r)

def formatParts : Nat → List Char → List FormatPart
  | 0, _ => []
  | _, [] => []
  | fuel + 1, '%' :: '%' :: r => .literal [37] :: formatParts fuel r
  | fuel + 1, '%' :: r =>
    match directiveOf r with
    | some (p, rest) => p :: formatParts fuel rest
    | none => [.literal [37]]
  | fuel + 1, '\\' :: r =>
    let (b, used) := escapeByte r
    .literal [b] :: formatParts fuel (r.drop used)
  | fuel + 1, c :: r => .literal (bytesOfChars [c]) :: formatParts fuel r

def pad (d : Directive) (bs : Bytes) : Bytes :=
  let fill := List.replicate (d.width - bs.length) (32 : UInt8)
  if d.left then bs ++ fill else fill ++ bs

def padNumber (d : Directive) (sign : Bytes) (digits : Bytes) : Bytes :=
  let digits := List.replicate (d.precision.getD 1 - digits.length) 48 ++ digits
  if d.zeros && !d.left && d.precision.isNone then
    sign ++ List.replicate (d.width - sign.length - digits.length) 48 ++ digits
  else pad d (sign ++ digits)

def digitsIn (base : Nat) (n : Nat) : Bytes :=
  bytesOfChars (Nat.toDigits base n)

def numberArgument (s : String) : Option Int :=
  match s.toList with
  | [] => some 0
  | '\'' :: c :: _ => some c.toNat
  | '"' :: c :: _ => some c.toNat
  | _ => Arithmetic.signedOf? s

/-- One directive with its argument. The second part tells whether output goes on, the third
whether the argument was fit for the directive. -/
def formatOne (d : Directive) (conversion : Char) (arg : String) : Bytes × Bool × Bool :=
  let cut := fun bs : Bytes => match d.precision with
    | some n => bs.take n
    | none => bs
  let number := numberArgument arg
  let n := number.getD 0
  let unsigned := Arithmetic.bits n
  let fit := number.isSome
  match conversion with
  | 's' => (pad d (cut (bytesOf arg)), true, true)
  | 'b' =>
    let (bs, goesOn) := escapedText 0 arg.toList
    (pad d (cut bs), goesOn, true)
  | 'c' => (pad d ((bytesOf arg).take 1), true, true)
  | 'u' => (padNumber d [] (digitsIn 10 unsigned), true, fit)
  | 'o' => (padNumber d (if d.alternate then [48] else []) (digitsIn 8 unsigned), true, fit)
  | 'x' => (padNumber d (if d.alternate then [48, 120] else []) (digitsIn 16 unsigned), true, fit)
  | 'X' =>
    (padNumber d (if d.alternate then [48, 88] else [])
      (bytesOfChars ((Nat.toDigits 16 unsigned).map Char.toUpper)), true, fit)
  | _ =>
    let sign : Bytes := if n < 0 then [45] else if d.plus then [43] else if d.space then [32] else []
    (padNumber d sign (digitsIn 10 n.natAbs), true, fit)

structure Printed where
  bytes : Bytes
  goesOn : Bool
  /-- Arguments that are no numbers where numbers are wanted. -/
  unfit : List String
  /-- A directive that there is not; output ends before it. -/
  unknown : Option Char

def conversions : List Char :=
  ['s', 'b', 'c', 'd', 'i', 'u', 'o', 'x', 'X']

def formatPass : List FormatPart → List String → Printed × List String
  | [], args => (⟨[], true, [], none⟩, args)
  | .literal bs :: ps, args =>
    let (p, rest) := formatPass ps args
    ({ p with bytes := bs ++ p.bytes }, rest)
  | .directive d c :: ps, args =>
    if c ∉ conversions then (⟨[], false, [], some c⟩, [])
    else
      let arg := args.headD ""
      let (bs, goesOn, fit) := formatOne d c arg
      let unfit := if fit then [] else [arg]
      if goesOn then
        let (p, rest) := formatPass ps args.tail
        ({ p with bytes := bs ++ p.bytes, unfit := unfit ++ p.unfit }, rest)
      else (⟨bs, false, unfit, none⟩, [])

def formatPasses (parts : List FormatPart) : Nat → List String → Printed
  | 0, _ => ⟨[], true, [], none⟩
  | fuel + 1, args =>
    let (p, rest) := formatPass parts args
    if rest.isEmpty || !p.goesOn || rest.length = args.length then p
    else
      let q := formatPasses parts fuel rest
      { q with bytes := p.bytes ++ q.bytes, unfit := p.unfit ++ q.unfit }

def printf (format : String) (args : List String) : Printed :=
  formatPasses (formatParts (format.length + 1) format.toList) (args.length + 1) args

end OrderedBuild.Shell
