import OrderedBuild.FileTree.Query
import OrderedBuild.Settings.Decode
import OrderedBuild.UserDirs

namespace OrderedBuild

inductive SettingsFile where
  | asked (path : String)
  | project (path : String)
  | user (path : String)
deriving DecidableEq, Repr

def SettingsFile.path : SettingsFile → String
  | .asked p => p
  | .project p => p
  | .user p => p

namespace Settings

def projectFileName : String := "casabuild.toml"

def decidingFile (t : FileTree) (here : Location) (sourceRoot : String)
    (asked : Option String) (dirs : UserDirs) : Except SettingsError SettingsFile :=
  match asked with
  | some path => if t.isFile here path then .ok (.asked path) else .error (.notFound path)
  | none =>
    let project := Path.join sourceRoot projectFileName
    if t.isFile here project then .ok (.project project) else .ok (.user dirs.userConfig)

/-- The settings in a file; the defaults if nothing is there. -/
def load (t : FileTree) (here : Location) (path : String) (read : Reader := reader) :
    Except SettingsError Settings :=
  if !t.pathExists here path then .ok {}
  else match t.read here path with
    | .error e => .error (.readError path e.message)
    | .ok bytes =>
      match String.fromUTF8? bytes with
      | none => .error (.readError path "stream did not contain valid UTF-8")
      | some text => (read text).mapError (.parseError path)

def discover (t : FileTree) (here : Location) (sourceRoot : String) (asked : Option String)
    (dirs : UserDirs) (read : Reader := reader) : Except SettingsError Settings := do
  load t here (← decidingFile t here sourceRoot asked dirs).path read

end Settings

end OrderedBuild
