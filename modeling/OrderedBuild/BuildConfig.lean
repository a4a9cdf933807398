import OrderedBuild.Package.Plan
import OrderedBuild.Text.Affix

namespace OrderedBuild

inductive InstallLocation where
  /-- Into a staging directory, which is both locations. -/
  | staged (dir : String)
  /-- Into the system; the first location is known only if it was asked for. -/
  | system (location : Option String) (casacoredir : String)
  /-- Help of the build tool was asked for: nothing is added to its words. -/
  | passThrough
deriving DecidableEq, Repr

def InstallLocation.stageDir? : InstallLocation → Option String
  | .staged dir => some dir
  | _ => none

structure InstallDefaults where
  stageDir : String
  systemPrefix : String
deriving DecidableEq, Repr

structure BuildConfig where
  targets : List String
  forwarded : List String
  install : InstallLocation
  tests : Bool
  jobs : Option Nat
deriving DecidableEq, Repr

namespace BuildConfig

def installWord : String := "install"
def helpWord : String := "-h"
def prefixKey : String := "prefix="
def casacoredirKey : String := "casacoredir="

def firstValue (key : String) (words : List String) : Option String :=
  words.findSome? (Text.after? key)

def testsValue? (word : String) : Option String :=
  if word = "tests" then some "1" else Text.after? "tests=" word

/-- The last word about tests decides. -/
def asksForTests (words : List String) : Bool :=
  match (words.filterMap testsValue?).getLast? with
  | none => false
  | some value => Text.lowerAscii value ∉ ["", "0", "false", "no", "off"]

def isLocationWord (word : String) : Bool :=
  word = installWord || Text.beginsWith prefixKey word || Text.beginsWith casacoredirKey word

def installLocation (words : List String) (defaults : InstallDefaults) : InstallLocation :=
  let location := firstValue prefixKey words
  if installWord ∈ words then
    .system location
      (((firstValue casacoredirKey words).or location).getD defaults.systemPrefix)
  else .staged defaults.stageDir

/-- Words that name a package are targets. All other words go to the build tool, those about the
install location in a form of their own. -/
def ofWords (t : DependencyTable) (defaults : InstallDefaults) (words : List String) :
    BuildConfig :=
  let targets := words.filter t.contains
  let rest := words.filter (!t.contains ·)
  if helpWord ∈ rest then ⟨targets, rest, .passThrough, false, none⟩
  else ⟨targets, rest.filter (!isLocationWord ·), installLocation rest defaults,
    asksForTests rest, none⟩

/-- Whether locations were given that a staged build does not use. -/
def ignoresLocations (t : DependencyTable) (words : List String) : Bool :=
  let rest := words.filter (!t.contains ·)
  helpWord ∉ rest && installWord ∉ rest &&
    ((firstValue prefixKey rest).isSome || (firstValue casacoredirKey rest).isSome)

def withJobs (c : BuildConfig) (jobs : Nat) : BuildConfig :=
  { c with jobs := some jobs }

def request (c : BuildConfig) : BuildRequest :=
  if c.targets.isEmpty then .all else .packages c.targets

def installPrefix? (c : BuildConfig) : Option String :=
  match c.install with
  | .staged dir => some dir
  | .system location _ => location
  | .passThrough => none

/-- What tests run against: only if tests were asked for and the location is known. -/
def testPrefix? (c : BuildConfig) : Option String :=
  if c.tests then c.installPrefix? else none

def jobsWords (c : BuildConfig) : List String :=
  match c.jobs with
  | some n => ["-j" ++ toString n]
  | none => []

def backendArgs (c : BuildConfig) : List String :=
  match c.install with
  | .passThrough => c.forwarded
  | .staged dir =>
    c.forwarded ++ [installWord, prefixKey ++ dir, casacoredirKey ++ dir] ++ c.jobsWords
  | .system location casacoredir =>
    c.forwarded ++ [installWord] ++ (location.map (prefixKey ++ ·)).toList ++
      [casacoredirKey ++ casacoredir] ++ c.jobsWords

end BuildConfig

end OrderedBuild
