import OrderedBuild.Env
import OrderedBuild.Error
import OrderedBuild.Path
import OrderedBuild.SearchPath

namespace OrderedBuild

structure ExecutionContext where
  sourceRoot : String
  /-- Name of the test directory inside a package. -/
  testsDir : String := "tests"
  libraryPath : Option String := none
  path : Option String := none
deriving DecidableEq, Repr

namespace ExecutionContext

def libraryVariable : String := "LD_LIBRARY_PATH"
def pathVariable : String := "PATH"

def ofEnv (sourceRoot : String) (env : Env) : ExecutionContext :=
  { sourceRoot, libraryPath := env.get? libraryVariable, path := env.get? pathVariable }

def packageDir (c : ExecutionContext) (package : String) : String :=
  Path.join c.sourceRoot package

def testDir (c : ExecutionContext) (package : String) : String :=
  Path.join (c.packageDir package) c.testsDir

def searchPathError (variableName : String) : TestError :=
  .searchPath variableName "path segment contains separator \x60:\x60"

def prepend (variableName entry : String) (existing : Option String) :
    Except TestError String :=
  match SearchPath.prepend? entry existing with
  | some s => .ok s
  | none => .error (searchPathError variableName)

/-- The variables for tests against an install prefix. The data variable is set last. -/
def testEnv (c : ExecutionContext) (installPrefix testDir dataVariable : String) :
    Except TestError Env := do
  let library ← prepend libraryVariable (Path.join installPrefix "lib") c.libraryPath
  let path ← prepend pathVariable (Path.join installPrefix "bin") c.path
  return Env.override [] [(libraryVariable, library), (pathVariable, path),
    (dataVariable, testDir)]

end ExecutionContext

end OrderedBuild
