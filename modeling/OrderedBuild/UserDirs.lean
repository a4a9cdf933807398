import OrderedBuild.Env
import OrderedBuild.Path

namespace OrderedBuild

structure UserDirs where
  configDir : String
deriving DecidableEq, Repr

namespace UserDirs

def appName : String := "casabuild"
def configFileName : String := "config.toml"
def configDirVariable : String := "CASABUILD_CONFIG_DIR"

def given? (env : Env) (name : String) : Option String :=
  (env.get? name).filter (· ≠ "")

def home (env : Env) (accountHome : String) : String :=
  (given? env "HOME").getD accountHome

/-- The directory for settings of all programs: the one named in the environment if it is
absolute, else the usual one under the home directory. -/
def baseDir (env : Env) (accountHome : String) : String :=
  match (env.get? "XDG_CONFIG_HOME").filter Path.isAbsolute with
  | some dir => dir
  | none => Path.join (home env accountHome) ".config"

def ofEnv (env : Env) (accountHome : String) : UserDirs :=
  match given? env configDirVariable with
  | some dir => ⟨dir⟩
  | none => ⟨Path.join (baseDir env accountHome) appName⟩

def userConfig (d : UserDirs) : String :=
  Path.join d.configDir configFileName

end UserDirs

end OrderedBuild
