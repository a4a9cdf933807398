import OrderedBuild.Path
import OrderedBuild.Text.Affix
import OrderedBuild.Text.Word

namespace OrderedBuild

inductive EntryKind where
  | file
  | directory
  | link
  | other
deriving DecidableEq, Repr

/-- An entry of a directory; a link is not what it leads to. -/
structure DirEntry where
  name : String
  kind : EntryKind
deriving DecidableEq, Repr

def hasExtension (isWord : Char → Bool) (name : String) : Bool :=
  let r := name.toList.reverse
  !(r.takeWhile isWord).isEmpty && (r.dropWhile isWord).head? == some '.'

def isTestEntry (isWord : Char → Bool) (start : String) (e : DirEntry) : Bool :=
  e.kind = .file && Text.beginsWith start e.name && !hasExtension isWord e.name

def testNames (start : String) (entries : List DirEntry)
    (isWord : Char → Bool := Text.isWord) : List String :=
  ((entries.filter (isTestEntry isWord start)).map (·.name)).mergeSort fun a b => decide (a ≤ b)

def testPaths (dir start : String) (entries : List DirEntry)
    (isWord : Char → Bool := Text.isWord) : List String :=
  (testNames start entries isWord).map (Path.join dir)

end OrderedBuild
