import OrderedBuild.Shell.Arithmetic
import OrderedBuild.Shell.Command
import OrderedBuild.Shell.Pattern
import OrderedBuild.Shell.Token

namespace OrderedBuild.Shell

inductive Fallback where
  | use
  | assign
  | fail
  | replace
deriving DecidableEq, Repr

inductive ParameterUse where
  | value
  | size
  /-- What happens when the parameter is not set, or is empty if `orEmpty` says so. -/
  | fallback (kind : Fallback) (orEmpty : Bool) (word : RawWord)
  | trim (fromEnd longest : Bool) (pattern : RawWord)
deriving DecidableEq, Repr

inductive Substitution where
  | parameter (name : String) (use : ParameterUse)
  | command (text : List Char)
  | arithmetic (text : List Char)
  | mistaken
deriving DecidableEq, Repr

def specialParameters : List Char :=
  ['@', '*', '#', '?', '-', '$', '!']

def parameterName? (longNumbers : Bool) : List Char → Option (String × List Char)
  | [] => none
  | c :: r =>
    if c ∈ specialParameters then some (String.singleton c, r)
    else if c.isDigit then
      let (ds, rest) := if longNumbers then (c :: r).span Char.isDigit else ([c], r)
      some (String.ofList ds, rest)
    else if Arithmetic.isNameStart c then
      let (cs, rest) := (c :: r).span Arithmetic.isNameChar
      some (String.ofList cs, rest)
    else none

def parameterUse? : List Char → Option ParameterUse
  | [] => some .value
  | ':' :: '-' :: w => some (.fallback .use true w)
  | ':' :: '=' :: w => some (.fallback .assign true w)
  | ':' :: '?' :: w => some (.fallback .fail true w)
  | ':' :: '+' :: w => some (.fallback .replace true w)
  | '-' :: w => some (.fallback .use false w)
  | '=' :: w => some (.fallback .assign false w)
  | '?' :: w => some (.fallback .fail false w)
  | '+' :: w => some (.fallback .replace false w)
  | '%' :: '%' :: w => some (.trim true true w)
  | '%' :: w => some (.trim true false w)
  | '#' :: '#' :: w => some (.trim false true w)
  | '#' :: w => some (.trim false false w)
  | _ => none

def bracedParameter (cs : List Char) : Substitution :=
  let usual := match parameterName? true cs with
    | some (name, rest) => match parameterUse? rest with
      | some use => Substitution.parameter name use
      | none => .mistaken
    | none => .mistaken
  match cs with
  | '#' :: c :: r =>
    match parameterName? true (c :: r) with
    | some (name, []) => .parameter name .size
    | _ => usual
  | _ => usual

/-- What follows a dollar sign; `none` if the sign stands for itself. -/
def substitution? (inDouble : Bool) : List Char → Option (Substitution × List Char)
  | '\x7b' :: r =>
    match enclosed? (.brace inDouble) r with
    | some (inside, rest) => some (bracedParameter inside, rest)
    | none => some (.mistaken, [])
  | '(' :: r =>
    match enclosed? .paren r with
    | none => some (.mistaken, [])
    | some (inside, rest) =>
      match inside, inside.getLast? with
      | '(' :: text, some ')' => some (.arithmetic text.dropLast, rest)
      | _, _ => some (.command inside, rest)
  | cs => (parameterName? false cs).map fun p => (.parameter p.1 .value, p.2)

def unescapeBack (inDouble : Bool) : List Char → List Char
  | '\\' :: c :: r =>
    if c ∈ ['\x60', '$', '\\'] || (inDouble && c = '"') then c :: unescapeBack inDouble r
    else '\\' :: c :: unescapeBack inDouble r
  | c :: r => c :: unescapeBack inDouble r
  | [] => []

inductive Piece where
  /-- A character; one that is neither quoted nor written in the word itself may separate fields. -/
  | char (c : Char) (quoted fromValue : Bool)
  /-- There is a field here even if it holds nothing. -/
  | present
  /-- One field ends and the next begins. -/
  | cut
deriving DecidableEq, Repr

def piecesOf (quoted : Bool) (s : String) : List Piece :=
  s.toList.map fun c => .char c quoted true

def separatePieces (quoted : Bool) (values : List String) : List Piece :=
  [Piece.cut].intercalate
    (values.map fun v => (if quoted then [.present] else []) ++ piecesOf quoted v)

/-- A field in the making: its marks, latest first, once it has begun. -/
structure FieldState where
  done : List (List Mark)
  current : Option (List Mark)
  /-- The last field was ended by a blank separator, which one other separator may follow. -/
  afterBlank : Bool

namespace FieldState

def finish (s : FieldState) (afterBlank : Bool) : FieldState :=
  match s.current with
  | none => { s with afterBlank := afterBlank && s.afterBlank }
  | some marks => ⟨marks.reverse :: s.done, none, afterBlank⟩

def isBlankSeparator (c : Char) : Bool :=
  c = ' ' || c = '\t' || c = '\n'

def step (separators : List Char) (s : FieldState) : Piece → FieldState
  | .present => ⟨s.done, some (s.current.getD []), false⟩
  | .cut => s.finish false
  | .char c quoted fromValue =>
    if !quoted && fromValue && c ∈ separators then
      if isBlankSeparator c then s.finish true
      else if s.afterBlank then { s with afterBlank := false }
      else ⟨(s.current.getD []).reverse :: s.done, none, false⟩
    else ⟨s.done, some (⟨c, quoted⟩ :: s.current.getD []), false⟩

end FieldState

def fieldsOf (separators : List Char) (pieces : List Piece) : List (List Mark) :=
  ((pieces.foldl (FieldState.step separators) ⟨[], none, false⟩).finish false).done.reverse

/-- An expanded word that is not split: fields are put together with blanks. -/
def marksOf (pieces : List Piece) : List Mark :=
  pieces.filterMap fun
    | .char c quoted _ => some ⟨c, quoted⟩
    | .cut => some ⟨' ', true⟩
    | .present => none

def textOf (marks : List Mark) : String :=
  String.ofList (marks.map (·.char))

end OrderedBuild.Shell
