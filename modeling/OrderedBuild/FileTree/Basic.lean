import OrderedBuild.FileTree.Error
import OrderedBuild.Path
import OrderedBuild.Text.Affix

namespace OrderedBuild

abbrev Location := List String

inductive FileNode where
  | directory
  /-- A directory that may be neither searched nor listed nor changed. -/
  | closed
  | file (content : ByteArray) (executable : Bool)
  /-- A file that may be neither read nor written. -/
  | locked
  | link (target : String)
  /-- A program that is part of the system. -/
  | program (name : String)
  /-- Swallows what is written to it and reads as empty. -/
  | sink

def FileNode.isDirectory : FileNode → Bool
  | directory | closed => true
  | _ => false

def FileNode.isRegular : FileNode → Bool
  | file _ _ | locked | program _ => true
  | _ => false

structure FileTree where
  nodes : List (Location × FileNode)

namespace FileTree

def empty : FileTree :=
  ⟨[]⟩

/-- The root is always a directory. -/
def node? (t : FileTree) : Location → Option FileNode
  | [] => some .directory
  | l => t.nodes.lookup l

def put (t : FileTree) (l : Location) (n : FileNode) : FileTree :=
  ⟨t.nodes.filter (·.1 ≠ l) ++ [(l, n)]⟩

def remove (t : FileTree) (l : Location) : FileTree :=
  ⟨t.nodes.filter fun e => !l.isPrefixOf e.1⟩

def children (t : FileTree) (l : Location) : List (String × FileNode) :=
  t.nodes.filterMap fun e =>
    match e.1.getLast? with
    | some name => if e.1.dropLast = l then some (name, e.2) else none
    | none => none

def isDirectoryAt (t : FileTree) (l : Location) : Bool :=
  (t.node? l).any FileNode.isDirectory

def isClosedAt (t : FileTree) (l : Location) : Bool :=
  match t.node? l with
  | some .closed => true
  | _ => false

/-- Where a path ends: a location and what is there. Only the last name may lead to nothing. -/
structure Place where
  location : Location
  node : Option FileNode

def longestName : Nat := 255
def longestPath : Nat := 4095
def mostLinks : Nat := 40

/-- Follows names from a location. A link in the last place is followed only if `follow` says so. -/
def walk (t : FileTree) (follow : Bool) (links : Nat) (here : Location) :
    List String → Except OsError Place
  | [] => .ok ⟨here, t.node? here⟩
  | name :: rest =>
    if !t.isDirectoryAt here then .error .notADirectory
    else if name = "" then walk t follow links here rest
    else if t.isClosedAt here then .error .permissionDenied
    else if name = "." then walk t follow links here rest
    else if name = ".." then walk t follow links here.dropLast rest
    else if name.utf8ByteSize > longestName then .error .nameTooLong
    else match t.node? (here ++ [name]) with
      | none => if rest.isEmpty then .ok ⟨here ++ [name], none⟩ else .error .notFound
      | some (.link target) =>
        if rest.isEmpty && !follow then .ok ⟨here ++ [name], some (.link target)⟩
        else match links with
          | 0 => .error .tooManyLinks
          | links + 1 =>
            if target = "" then .error .notFound
            else walk t follow links (if Path.isAbsolute target then [] else here)
              (Text.splitOn '/' target ++ rest)
      | some _ => walk t follow links (here ++ [name]) rest
termination_by todo => (links, todo.length)

/-- Where a path leads from the directory `here`. -/
def locate (t : FileTree) (follow : Bool) (here : Location) (path : String) :
    Except OsError Place :=
  if path = "" then .error .notFound
  else if path.utf8ByteSize > longestPath then .error .nameTooLong
  else t.walk follow mostLinks (if Path.isAbsolute path then [] else here)
    (Text.splitOn '/' path)

def pathOf (l : Location) : String :=
  "/" ++ "/".intercalate l

end FileTree

end OrderedBuild
