import OrderedBuild.Json.Basic

namespace OrderedBuild

inductive TestStatus where
  | passed
  | failed
deriving DecidableEq, Repr

structure TestResult where
  name : String
  status : TestStatus
  output : String
deriving DecidableEq, Repr

structure TestReport where
  package : String
  /-- In the order the tests ran. -/
  results : List TestResult
deriving DecidableEq, Repr

def TestStatus.word : TestStatus → String
  | .passed => "passed"
  | .failed => "failed"

namespace TestReport

def count (r : TestReport) (status : TestStatus) : Nat :=
  r.results.countP (·.status = status)

def passed (r : TestReport) : Nat :=
  r.count .passed

def failed (r : TestReport) : Nat :=
  r.count .failed

def isSuccess (r : TestReport) : Bool :=
  r.failed = 0

def resultJson (r : TestResult) : Json :=
  .obj [("name", .str r.name), ("status", .str r.status.word), ("output", .str r.output)]

def toJson (r : TestReport) : Json :=
  .obj [("package", .str r.package), ("results", .arr (r.results.map resultJson))]

end TestReport

end OrderedBuild
