import OrderedBuild.Settings.Basic
import OrderedBuild.Toml.Document

namespace OrderedBuild.Settings

def asText : Toml → Option String
  | .text s => some s
  | _ => none

def asCount : Toml → Option Nat
  | .integer n => if 0 ≤ n then some n.toNat else none
  | _ => none

def asTexts : Toml → Option (List String)
  | .array items => items.mapM asText
  | _ => none

def asDepends : Toml → Option (List (String × List String))
  | .table entries => entries.mapM fun e => (asTexts e.2).map (e.1, ·)
  | _ => none

/-- A field of a group of settings, if it is given. A group is a table of fields, or a list of
their values in order that may only stop short of a field with `mayEnd`, or a date, which gives no
field at all. -/
def field? (group : Toml) (index : Nat) (name : String) (mayEnd : Bool) : Option (Option Toml) :=
  match group with
  | .table entries => some (entries.lookup name)
  | .array items => if mayEnd || index < items.length then some items[index]? else none
  | .moment _ => some none
  | _ => none

def read? {α : Type} (read : Toml → Option α) : Option Toml → Option (Option α)
  | none => some none
  | some v => (read v).map some

def fieldAs {α : Type} (read : Toml → Option α) (group : Toml) (index : Nat) (name : String) :
    Option (Option α) := do
  read? read (← field? group index name false)

def toolsOf (g : Toml) : Option ToolSettings := do
  return {
    backend := ← fieldAs asText g 0 "backend"
    harness := ← fieldAs asText g 1 "harness" }

def buildOf (g : Toml) : Option BuildSettings := do
  return {
    stageDir := ← fieldAs asText g 0 "stage_dir"
    systemPrefix := ← fieldAs asText g 1 "system_prefix"
    jobs := ← fieldAs asCount g 2 "jobs" }

def testsOf (g : Toml) : Option TestSettings := do
  return {
    directory := ← fieldAs asText g 0 "directory"
    executableStart := ← fieldAs asText g 1 "prefix"
    passMarkers := ← fieldAs asTexts g 2 "pass_markers"
    dataVariable := ← fieldAs asText g 3 "data_path_var" }

def packagesOf (g : Toml) : Option PackageSettings := do
  return {
    order := ← fieldAs asTexts g 0 "order"
    depends := (← read? asDepends (← field? g 1 "depends" true)).getD [] }

def ofToml (entries : List (String × Toml)) : Option Settings := do
  return {
    tools := (← read? toolsOf (entries.lookup "tools")).getD {}
    build := (← read? buildOf (entries.lookup "build")).getD {}
    tests := (← read? testsOf (entries.lookup "tests")).getD {}
    packages := ← read? packagesOf (entries.lookup "packages") }

def parse? (text : String) : Option Settings := do
  ofToml (← Toml.parse? text)

/-- Reads settings from a text, or says why they cannot be read. -/
abbrev Reader := String → Except String Settings

def reader : Reader :=
  fun text => match parse? text with
    | some s => .ok s
    | none => .error "not a settings document"

end OrderedBuild.Settings
