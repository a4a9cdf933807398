namespace OrderedBuild

abbrev Env := List (String × String)

namespace Env

def get? (env : Env) (name : String) : Option String :=
  env.lookup name

def unset (env : Env) (name : String) : Env :=
  env.filter (·.1 ≠ name)

def set (env : Env) (name value : String) : Env :=
  env.unset name ++ [(name, value)]

/-- Puts the settings of `others` on top of `env`. -/
def override (env others : Env) : Env :=
  others.foldl (fun e v => e.set v.1 v.2) env

end Env

end OrderedBuild
