import OrderedBuild.CommandLine.Reading
import OrderedBuild.OutputConfig

namespace OrderedBuild

structure Options where
  verbose : Nat := 0
  quiet : Bool := false
  json : Bool := false
  directory : Option String := none
  config : Option String := none
  backend : Option String := none
  harness : Option String := none
  jobs : Option Nat := none
  dryRun : Bool := false
  list : Bool := false
  args : List String := []
deriving DecidableEq, Repr

namespace Options

def configVariable : String := "CASABUILD_CONFIG"
def backendVariable : String := "CASABUILD_BACKEND"
def harnessVariable : String := "CASABUILD_HARNESS"

/-- The letter `h` is no option: it asks for the help of the build tool. -/
def command : Command where
  options := [
    { name := "verbose", short? := some 'v', long := "verbose", action := .switch .tally },
    { name := "quiet", short? := some 'q', long := "quiet", action := .switch .flag },
    { name := "json", long := "json", action := .switch .flag },
    { name := "directory", long := "directory", action := .setting .path },
    { name := "config", long := "config", action := .setting .path,
      envName? := some configVariable },
    { name := "backend", long := "backend", action := .setting .text,
      envName? := some backendVariable },
    { name := "harness", long := "harness", action := .setting .text,
      envName? := some harnessVariable },
    { name := "jobs", short? := some 'j', long := "jobs", action := .setting .count },
    { name := "dry_run", long := "dry-run", action := .switch .flag },
    { name := "list", long := "list", action := .switch .flag },
    { name := "help", long := "help", action := .switch .help },
    { name := "version", short? := some 'V', long := "version", action := .switch .version }]
  free := { trailing := true, allowsDashes := true }

def ofMatches (m : Matches) : Options where
  verbose := (m.count? "verbose").getD 0
  quiet := m.isSet "quiet"
  json := m.isSet "json"
  directory := m.text? "directory"
  config := m.text? "config"
  backend := m.text? "backend"
  harness := m.text? "harness"
  jobs := m.count? "jobs"
  dryRun := m.isSet "dry_run"
  list := m.isSet "list"
  args := m.free

def parse (env : Env) (words : List String) (parser : CommandParser := Command.parse) :
    Except Stop Options :=
  (parser command env words).map ofMatches

def outputConfig (o : Options) : OutputConfig :=
  ⟨o.quiet, o.json, o.verbose⟩

end Options

end OrderedBuild
