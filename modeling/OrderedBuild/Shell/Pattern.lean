namespace OrderedBuild.Shell

/-- A character, and whether it is quoted and so stands for itself. -/
structure Mark where
  char : Char
  quoted : Bool
deriving DecidableEq, Repr

inductive PatternItem where
  | one (c : Char)
  | any
  | anyText
  | oneOf (negated : Bool) (ranges : List (Char × Char))
deriving DecidableEq, Repr

namespace PatternItem

/-- The ranges between brackets up to the closing one, and how many marks they take with it. A
closing bracket in first place stands for itself. -/
def rangesOf (first : Bool) : List Mark → Option (List (Char × Char) × Nat)
  | [] => none
  | ⟨']', false⟩ :: r =>
    if first then (rangesOf false r).map fun p => ((']', ']') :: p.1, p.2 + 1)
    else some ([], 1)
  | a :: ⟨'-', false⟩ :: ⟨']', false⟩ :: _ => some ([(a.char, a.char), ('-', '-')], 3)
  | a :: ⟨'-', false⟩ :: b :: r =>
    (rangesOf false r).map fun p => ((a.char, b.char) :: p.1, p.2 + 3)
  | a :: r => (rangesOf false r).map fun p => ((a.char, a.char) :: p.1, p.2 + 1)

def bracket? : List Mark → Option (PatternItem × Nat)
  | ⟨'!', false⟩ :: r => (rangesOf true r).map fun p => (.oneOf true p.1, p.2 + 1)
  | r => (rangesOf true r).map fun p => (.oneOf false p.1, p.2)

def ofMarks : Nat → List Mark → List PatternItem
  | _, [] => []
  | skip + 1, _ :: r => ofMarks skip r
  | 0, m :: r =>
    if m.quoted then .one m.char :: ofMarks 0 r
    else match m.char with
      | '*' => .anyText :: ofMarks 0 r
      | '?' => .any :: ofMarks 0 r
      | '[' =>
        match bracket? r with
        | some (item, used) => item :: ofMarks used r
        | none => .one '[' :: ofMarks 0 r
      | c => .one c :: ofMarks 0 r

def endings : List Char → List (List Char)
  | [] => [[]]
  | c :: cs => (c :: cs) :: endings cs

def accepts : List PatternItem → List Char → Bool
  | [], cs => cs.isEmpty
  | .anyText :: p, cs => (endings cs).any (accepts p)
  | _ :: _, [] => false
  | .one d :: p, c :: cs => d = c && accepts p cs
  | .any :: p, _ :: cs => accepts p cs
  | .oneOf negated ranges :: p, c :: cs =>
    (ranges.any fun r => r.1 ≤ c && c ≤ r.2) != negated && accepts p cs

end PatternItem

def matchesPattern (pattern : List Mark) (text : String) : Bool :=
  PatternItem.accepts (PatternItem.ofMarks 0 pattern) text.toList

def isPattern (marks : List Mark) : Bool :=
  marks.any fun m => !m.quoted && m.char ∈ ['*', '?', '[']

def withoutBeginning (longest : Bool) (pattern : List Mark) (text : List Char) : List Char :=
  let items := PatternItem.ofMarks 0 pattern
  let sizes := List.range (text.length + 1)
  let sizes := if longest then sizes.reverse else sizes
  match sizes.find? fun n => PatternItem.accepts items (text.take n) with
  | some n => text.drop n
  | none => text

def withoutEnding (longest : Bool) (pattern : List Mark) (text : List Char) : List Char :=
  let items := PatternItem.ofMarks 0 pattern
  let sizes := List.range (text.length + 1)
  let sizes := if longest then sizes else sizes.reverse
  match sizes.find? fun n => PatternItem.accepts items (text.drop n) with
  | some n => text.take n
  | none => text

end OrderedBuild.Shell
