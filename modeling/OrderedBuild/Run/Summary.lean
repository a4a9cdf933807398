import OrderedBuild.Test.Report

namespace OrderedBuild

structure BuildSummary where
  built : List String
  tests : List TestReport
deriving DecidableEq, Repr

namespace BuildSummary

def empty : BuildSummary :=
  ⟨[], []⟩

def count (s : BuildSummary) (status : TestStatus) : Nat :=
  (s.tests.map (·.count status)).foldr (· + ·) 0

def passed (s : BuildSummary) : Nat :=
  s.count .passed

def failed (s : BuildSummary) : Nat :=
  s.count .failed

def successMark : String := "✓"
def errorMark : String := "✗"
def warningMark : String := "⚠"

def failureLines (r : TestReport) : List String :=
  (r.results.filter (·.status = .failed)).map fun t =>
    "  " ++ errorMark ++ " " ++ r.package ++ "/" ++ t.name

/-- A line on the build, and if there are reports a line on the tests and one per failed test. -/
def lines (s : BuildSummary) : List String :=
  let head := successMark ++ " Build complete: " ++ toString s.built.length ++ " package(s)"
  if s.tests.isEmpty then [head]
  else
    let mark := if s.failed = 0 then successMark else warningMark
    let counts := mark ++ " Tests: " ++ toString s.passed ++ " passed, " ++
      toString s.failed ++ " failed"
    head :: counts :: (s.tests.filter (!·.isSuccess)).flatMap failureLines

def toJson (s : BuildSummary) : Json :=
  .obj [("built", Json.strings s.built), ("tests", .arr (s.tests.map TestReport.toJson))]

end BuildSummary

end OrderedBuild
