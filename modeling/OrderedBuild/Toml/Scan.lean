namespace OrderedBuild

abbrev Scan := StateT (List Char) Option

namespace Scan

variable {α β : Type}

def next? : Scan (Option Char) :=
  fun cs => some (cs.head?, cs)

def satisfy (p : Char → Bool) : Scan Char
  | [] => none
  | c :: cs => if p c then some (c, cs) else none

def char (c : Char) : Scan Unit :=
  discard (satisfy (· = c))

def word (w : String) : Scan Unit :=
  fun cs => if w.toList.isPrefixOf cs then some ((), cs.drop w.toList.length) else none

def takeWhile (p : Char → Bool) : Scan (List Char) :=
  fun cs => some (cs.span p)

def ended : Scan Unit
  | [] => some ((), [])
  | _ :: _ => none

def many (p : Scan α) : Scan (List α) :=
  fun cs => some (go cs)
where
  go (cs : List Char) : List α × List Char :=
    match p cs with
    | none => ([], cs)
    | some (a, rest) =>
      if rest.length < cs.length then
        let r := go rest
        (a :: r.1, r.2)
      else ([], cs)
  termination_by cs.length

/-- One or more with a separator between them; what follows a separator must be one more. -/
def separated (sep : Scan Unit) (p : Scan α) : Scan (List α) := do
  let first ← p
  let rest ← many (do sep; p)
  return first :: rest

def optional (p : Scan α) : Scan (Option α) :=
  (do return some (← p)) <|> pure none

def spelled (p : Scan α) : Scan (α × String) :=
  fun cs => do
    let (a, rest) ← p cs
    return ((a, String.ofList (cs.take (cs.length - rest.length))), rest)

end Scan

end OrderedBuild
