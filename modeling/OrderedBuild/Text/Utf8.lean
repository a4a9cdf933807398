namespace OrderedBuild.Text

/-- The ranges that the bytes after a leading byte must lie in; `none` if the byte leads nothing. -/
def followers (b : UInt8) : Option (List (UInt8 × UInt8)) :=
  if b < 0x80 then some []
  else if b < 0xC2 then none
  else if b < 0xE0 then some [(0x80, 0xBF)]
  else if b == 0xE0 then some [(0xA0, 0xBF), (0x80, 0xBF)]
  else if b == 0xED then some [(0x80, 0x9F), (0x80, 0xBF)]
  else if b < 0xF0 then some [(0x80, 0xBF), (0x80, 0xBF)]
  else if b == 0xF0 then some [(0x90, 0xBF), (0x80, 0xBF), (0x80, 0xBF)]
  else if b < 0xF4 then some [(0x80, 0xBF), (0x80, 0xBF), (0x80, 0xBF)]
  else if b == 0xF4 then some [(0x80, 0x8F), (0x80, 0xBF), (0x80, 0xBF)]
  else none

def fitting : List (UInt8 × UInt8) → List UInt8 → Nat
  | (lo, hi) :: rs, b :: bs => if lo ≤ b && b ≤ hi then fitting rs bs + 1 else 0
  | _, _ => 0

def codePoint (b : UInt8) (bs : List UInt8) : Nat :=
  let high := match bs.length with
    | 0 => b.toNat
    | 1 => b.toNat % 32
    | 2 => b.toNat % 16
    | _ => b.toNat % 8
  bs.foldl (fun n x => n * 64 + x.toNat % 64) high

def replacement : Char := Char.ofNat 0xFFFD

def decodeLossy : List UInt8 → List Char
  | [] => []
  | b :: bs =>
    match followers b with
    | none => replacement :: decodeLossy bs
    | some rs =>
      let k := fitting rs bs
      let c := if k = rs.length then Char.ofNat (codePoint b (bs.take k)) else replacement
      c :: decodeLossy (bs.drop k)
termination_by bs => bs.length

def ofBytesLossy (bytes : ByteArray) : String :=
  String.ofList (decodeLossy bytes.toList)

end OrderedBuild.Text
