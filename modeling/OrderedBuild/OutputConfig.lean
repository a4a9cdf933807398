import OrderedBuild.Log

namespace OrderedBuild

structure OutputConfig where
  quiet : Bool
  json : Bool
  verbose : Nat
deriving DecidableEq, Repr

namespace OutputConfig

def level (o : OutputConfig) : Level :=
  if o.quiet then .error
  else match o.verbose with
    | 0 => .warn
    | 1 => .info
    | _ => .debug

def showsProgress (o : OutputConfig) : Bool :=
  !o.quiet && !o.json

end OutputConfig

end OrderedBuild
