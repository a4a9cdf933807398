import OrderedBuild.Toml.Moment
import OrderedBuild.Toml.Number
import OrderedBuild.Toml.Table
import OrderedBuild.Toml.Text

namespace OrderedBuild.Toml

def arrayOf (item : Scan Toml) : Scan Toml := do
  Scan.char '['
  let items ← Scan.optional
    (Scan.separated (Scan.char ',') (do spacing; let v ← item; spacing; return v))
  if items.isSome then discard (Scan.optional (Scan.char ','))
  spacing
  Scan.char ']'
  return .array (items.getD [])

def binding (item : Scan Toml) : Scan (List String × Toml) := do
  let k ← key
  Scan.char '='
  blanks
  return (k, ← item)

def addBinding (header : List String) (es : Entries) (b : List String × Toml) : Option Entries := do
  let k ← b.1.getLast?
  es.addValue header b.1.dropLast k b.2

/-- A table on one line: no comma at its end. -/
def inlineTableOf (item : Scan Toml) : Scan Toml := do
  Scan.char '\x7b'
  let bindings ← Scan.optional
    (Scan.separated (Scan.char ',') (do let b ← binding item; blanks; return b))
  blanks
  Scan.char '\x7d'
  let es ← ((bindings.getD []).foldlM (addBinding []) [] : Option Entries)
  return .table (entriesToToml es)

def truth : Scan Toml :=
  (do Scan.word "true"; return .boolean true) <|> (do Scan.word "false"; return .boolean false)

def plainValue : Scan Toml :=
  (do return .text (← quotedText)) <|> truth <|> dateTime <|> number

def valueWithin : Nat → Scan Toml
  | 0 => plainValue
  | depth + 1 => arrayOf (valueWithin depth) <|> inlineTableOf (valueWithin depth) <|> plainValue

def value : Scan Toml :=
  valueWithin (nestingLimit - 1)

structure Reading where
  entries : Entries
  header : List String

def tableHeader (r : Reading) : Scan Reading := do
  Scan.char '['
  let path ← key
  Scan.char ']'
  lineEnd
  let k ← (path.getLast? : Option String)
  let es ← (r.entries.giveTable path.dropLast k : Option Entries)
  return ⟨es, path⟩

def arrayHeader (r : Reading) : Scan Reading := do
  Scan.word "[["
  let path ← key
  Scan.word "]]"
  lineEnd
  let k ← (path.getLast? : Option String)
  let es ← (r.entries.beginTable path.dropLast k : Option Entries)
  return ⟨es, path⟩

def bindingLine (r : Reading) : Scan Reading := do
  let b ← binding value
  lineEnd
  return { r with entries := ← (addBinding r.header r.entries b : Option Entries) }

def line (r : Reading) : Scan Reading := do
  match ← Scan.next? with
  | some '#' => comment; lineEnd; return r
  | some '\n' => newline; return r
  | some '\r' => newline; return r
  | some '[' => arrayHeader r <|> tableHeader r
  | _ => bindingLine r

def lines (r : Reading) (cs : List Char) : Option Reading :=
  match cs.dropWhile isBlank with
  | [] => some r
  | rest =>
    match line r rest with
    | none => none
    | some (r, after) => if after.length < cs.length then lines r after else none
termination_by cs.length

/-- The entries of a document; a byte order mark before it is skipped. -/
def parse? (s : String) : Option (List (String × Toml)) := do
  let cs := match s.toList with
    | '\uFEFF' :: cs => cs
    | cs => cs
  let r ← lines ⟨[], []⟩ cs
  return entriesToToml r.entries

end OrderedBuild.Toml
