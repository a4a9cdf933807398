import OrderedBuild.Test.Report
import OrderedBuild.Text.Affix
import OrderedBuild.Text.Blank

namespace OrderedBuild

structure TestOutput where
  stdout : String
  stderr : String
deriving DecidableEq, Repr

namespace TestOutput

/-- Both streams trimmed, on lines of their own if both hold something. -/
def combined (o : TestOutput) : String :=
  let out := Text.trim o.stdout
  let err := Text.trim o.stderr
  if out = "" then err
  else if err = "" then out
  else out ++ "\n" ++ err

end TestOutput

/-- A test passed if its output holds a marker that is not empty. -/
def classify (output : String) (markers : List String) : TestStatus :=
  if markers.any fun m => m ≠ "" && Text.contains output m then .passed else .failed

end OrderedBuild
