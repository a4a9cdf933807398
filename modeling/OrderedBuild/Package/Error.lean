namespace OrderedBuild

inductive ResolverError where
  /-- The cycle starts and ends with the same package. -/
  | circularDependency (cycle : List String)
  | missingDependency (package dependency : String)
  | unknownPackage (name : String)
  | unsafeOrder (package dependency : String)
deriving DecidableEq, Repr

def ResolverError.message : ResolverError → String
  | .circularDependency cycle => "Circular dependency detected: " ++ " -> ".intercalate cycle
  | .missingDependency package dependency =>
    "Missing dependency: '" ++ dependency ++ "' required by '" ++ package ++ "'"
  | .unknownPackage name =>
    "Package '" ++ name ++ "' in the default build order is not in the dependency table"
  | .unsafeOrder package dependency =>
    "Default build order places '" ++ package ++ "' before its prerequisite '" ++ dependency ++ "'"

end OrderedBuild
