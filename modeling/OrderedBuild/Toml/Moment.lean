import OrderedBuild.Toml.Scan
import OrderedBuild.Toml.Value

namespace OrderedBuild.Toml

def fixedDigits (count least most : Nat) : Scan Nat :=
  fun cs =>
    let ds := cs.take count
    let n := ds.foldl (fun n d => n * 10 + (d.toNat - '0'.toNat)) 0
    if ds.length = count ∧ ds.all Char.isDigit ∧ least ≤ n ∧ n ≤ most then
      some (n, cs.drop count)
    else none

def isLeapYear (year : Nat) : Bool :=
  year % 4 = 0 && (year % 100 ≠ 0 || year % 400 = 0)

def daysIn (year month : Nat) : Nat :=
  if month = 2 then if isLeapYear year then 29 else 28
  else if month ∈ [4, 6, 9, 11] then 30
  else 31

def date : Scan Unit := do
  let year ← fixedDigits 4 0 9999
  Scan.char '-'
  let month ← fixedDigits 2 1 12
  Scan.char '-'
  discard (fixedDigits 2 1 (daysIn year month))

/-- Seconds go up to 60, for leap seconds. -/
def time : Scan Unit := do
  discard (fixedDigits 2 0 23)
  Scan.char ':'
  discard (fixedDigits 2 0 59)
  Scan.char ':'
  discard (fixedDigits 2 0 60)
  discard (Scan.optional (do
    Scan.char '.'
    discard (Scan.satisfy Char.isDigit)
    discard (Scan.takeWhile Char.isDigit)))

def offset : Scan Unit :=
  discard (Scan.satisfy fun c => c = 'Z' || c = 'z') <|> do
    discard (Scan.satisfy fun c => c = '+' || c = '-')
    discard (fixedDigits 2 0 23)
    Scan.char ':'
    discard (fixedDigits 2 0 59)

def timeAfterDate : Scan Unit := do
  discard (Scan.satisfy fun c => c = 'T' || c = 't' || c = ' ')
  time
  discard (Scan.optional offset)

def dateTime : Scan Toml := do
  let (_, written) ← Scan.spelled ((do date; discard (Scan.optional timeAfterDate)) <|> time)
  return .moment written

end OrderedBuild.Toml
