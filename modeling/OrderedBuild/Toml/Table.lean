import OrderedBuild.Toml.Value

namespace OrderedBuild.Toml

inductive TableKind where
  /-- Only named on the way to a deeper table. -/
  | implied
  /-- Made by a dotted key. -/
  | dotted
  /-- Under a header, or a value of its own. -/
  | given
deriving DecidableEq, Repr

inductive Item where
  | value (v : Toml)
  | table (kind : TableKind) (entries : List (String × Item))
  /-- An array of tables under headers; the last of them is apart. -/
  | tables (last : List (String × Item)) (before : List (List (String × Item)))

abbrev Entries := List (String × Item)

mutual

def Item.toToml : Item → Toml
  | .value v => v
  | .table _ es => .table (entriesToToml es)
  | .tables last before => .array (tablesToToml before ++ [.table (entriesToToml last)])

def entriesToToml : List (String × Item) → List (String × Toml)
  | [] => []
  | (k, i) :: es => (k, i.toToml) :: entriesToToml es

def tablesToToml : List (List (String × Item)) → List Toml
  | [] => []
  | es :: rest => .table (entriesToToml es) :: tablesToToml rest

end

namespace Entries

def replace (es : Entries) (k : String) (i : Item) : Entries :=
  es.map fun e => if e.1 = k then (k, i) else e

/-- Changes the table that a path leads to. A table that is missing on the way is made; through an
array of tables the path leads to the last one. A dotted key must not reach into a given table. -/
def update (dotted : Bool) (change : TableKind → Entries → Option Entries) :
    List String → TableKind → Entries → Option Entries
  | [], kind, es => change kind es
  | k :: path, _, es =>
    match es.lookup k with
    | none => do
      let kind := if dotted then TableKind.dotted else .implied
      let below ← update dotted change path kind []
      return es ++ [(k, .table kind below)]
    | some (.value _) => none
    | some (.table kind below) => do
      if dotted && kind = .given then none
      let below ← update dotted change path kind below
      return es.replace k (.table kind below)
    | some (.tables last before) => do
      let last ← update dotted change path .given last
      return es.replace k (.tables last before)

def addNew (k : String) (i : Item) (es : Entries) : Option Entries :=
  if (es.lookup k).isSome then none else some (es ++ [(k, i)])

def giveTable (parents : List String) (k : String) (es : Entries) : Option Entries :=
  es.update false (fun _ es =>
    match es.lookup k with
    | none => some (es ++ [(k, .table .given [])])
    | some (.table .implied below) => some (es.replace k (.table .given below))
    | some _ => none) parents .given

/-- Begins one more table of an array of tables. -/
def beginTable (parents : List String) (k : String) (es : Entries) : Option Entries :=
  es.update false (fun _ es =>
    match es.lookup k with
    | none => some (es ++ [(k, .tables [] [])])
    | some (.tables last before) => some (es.replace k (.tables [] (before ++ [last])))
    | some _ => none) parents .given

/-- Adds a value below the table that `header` leads to. A dotted key adds to tables of dotted keys
only. -/
def addValue (header path : List String) (k : String) (v : Toml) (es : Entries) :
    Option Entries :=
  es.update false (fun kind es =>
    es.update true (fun kind es =>
      if path.isEmpty || kind = .dotted then es.addNew k (.value v) else none) path kind)
    header .given

end Entries

end OrderedBuild.Toml
