import OrderedBuild.FileTree.Query
import OrderedBuild.Shell.Pattern

namespace OrderedBuild.Shell

def splitMarks : List Mark → List (List Mark)
  | [] => [[]]
  | m :: ms =>
    if m.char = '/' then [] :: splitMarks ms
    else match splitMarks ms with
      | [] => [[m]]
      | p :: ps => (m :: p) :: ps

def beginsWithDot (marks : List Mark) : Bool :=
  match marks with
  | m :: _ => m.char = '.'
  | [] => false

/-- The names in a directory that a pattern accepts, in order. A name that begins with a dot must
be asked for with one. -/
def namesMatching (t : FileTree) (here : Location) (dir : String) (pattern : List Mark) :
    List String :=
  match t.entries here (if dir = "" then "." else dir) with
  | .error _ => []
  | .ok es =>
    ((es.map (·.name)).filter fun n =>
      matchesPattern pattern n && (beginsWithDot pattern || n.toList.head? != some '.')).mergeSort
        fun a b => decide (a ≤ b)

def pathsMatching (t : FileTree) (here : Location) (start : String) :
    List (List Mark) → List String
  | [] => [start]
  | [last] =>
    if isPattern last then (namesMatching t here start last).map (start ++ ·)
    else
      let path := start ++ String.ofList (last.map (·.char))
      if t.pathExists here path then [path] else []
  | part :: parts =>
    if isPattern part then
      ((namesMatching t here start part).map fun n => start ++ n ++ "/").flatMap fun s =>
        pathsMatching t here s parts
    else pathsMatching t here (start ++ String.ofList (part.map (·.char)) ++ "/") parts

/-- The paths that a word stands for; the word itself if there are none. -/
def expandPaths (t : FileTree) (here : Location) (marks : List Mark) : List String :=
  let plain := String.ofList (marks.map (·.char))
  if !isPattern marks then [plain]
  else match pathsMatching t here "" (splitMarks marks) with
    | [] => [plain]
    | ps => ps

end OrderedBuild.Shell
