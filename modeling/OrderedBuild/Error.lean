import OrderedBuild.Package.Error

namespace OrderedBuild

inductive FilesystemError where
  | createDir (path detail : String)
  | canonicalize (path detail : String)
deriving DecidableEq, Repr

inductive BuildError where
  | buildFailed (package : String) (status : Int)
  | interrupted (package : String)
  | toolNotFound (tool : String)
  | packageDirNotFound (path : String)
  | spawn (tool package detail : String)
deriving DecidableEq, Repr

/-- None of these ends a run. -/
inductive TestError where
  | readDir (path detail : String)
  | spawn (harness test detail : String)
  | searchPath (variableName detail : String)
  | invalidPattern (pattern detail : String)
deriving DecidableEq, Repr

inductive SettingsError where
  | notFound (path : String)
  | readError (path detail : String)
  | parseError (path detail : String)
deriving DecidableEq, Repr

inductive Failure where
  | resolver (e : ResolverError)
  | build (e : BuildError)
  | test (e : TestError)
  | filesystem (e : FilesystemError)
  | settings (e : SettingsError)
  | io (detail : String)
deriving DecidableEq, Repr

def FilesystemError.message : FilesystemError → String
  | .createDir path detail => "Failed to create directory '" ++ path ++ "': " ++ detail
  | .canonicalize path detail => "Failed to resolve path '" ++ path ++ "': " ++ detail

namespace BuildError

def message : BuildError → String
  | .buildFailed package status =>
    "Build failed for package '" ++ package ++ "' (exit status " ++ toString status ++ ")"
  | .interrupted package => "Build interrupted while building '" ++ package ++ "'"
  | .toolNotFound tool => "Build backend '" ++ tool ++ "' not found in PATH"
  | .packageDirNotFound path => "Package directory not found: " ++ path
  | .spawn tool package detail =>
    "Failed to run '" ++ tool ++ "' for package '" ++ package ++ "': " ++ detail

def isInterrupted : BuildError → Bool
  | .interrupted _ => true
  | _ => false

/-- A failed build ends the program with the status of its tool, unless that was zero. -/
def exitCode : BuildError → Int
  | .buildFailed _ status => if status = 0 then 1 else status
  | .interrupted _ => 130
  | _ => 1

end BuildError

namespace TestError

def message : TestError → String
  | .readDir path detail => "Failed to read test directory '" ++ path ++ "': " ++ detail
  | .spawn harness test detail =>
    "Failed to run test harness '" ++ harness ++ "' on '" ++ test ++ "': " ++ detail
  | .searchPath variableName detail =>
    "Invalid search path entry for '" ++ variableName ++ "': " ++ detail
  | .invalidPattern pattern detail => "Invalid test name pattern '" ++ pattern ++ "': " ++ detail

def unavailable (executable : String) : TestError :=
  .spawn "none" executable "no test harness available"

end TestError

def SettingsError.message : SettingsError → String
  | .notFound path => "Settings file not found: " ++ path
  | .readError path detail => "Failed to read settings file '" ++ path ++ "': " ++ detail
  | .parseError path detail => "Failed to parse settings file '" ++ path ++ "': " ++ detail

namespace Failure

def detail : Failure → String
  | .resolver e => e.message
  | .build e => e.message
  | .test e => e.message
  | .filesystem e => e.message
  | .settings e => e.message
  | .io d => d

def area : Failure → String
  | .resolver _ => "Resolver"
  | .build _ => "Build"
  | .test _ => "Test"
  | .filesystem _ => "Filesystem"
  | .settings _ => "Settings"
  | .io _ => "IO"

def message (f : Failure) : String :=
  f.area ++ " error: " ++ f.detail

def exitCode : Failure → Int
  | .build e => e.exitCode
  | _ => 1

end Failure

end OrderedBuild
