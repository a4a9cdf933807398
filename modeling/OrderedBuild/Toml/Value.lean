namespace OrderedBuild

inductive Toml where
  | text (s : String)
  | integer (n : Int)
  /-- A number that is not an integer, as it is written. -/
  | float (written : String)
  | boolean (b : Bool)
  /-- A date, a time or both, as it is written. -/
  | moment (written : String)
  | array (items : List Toml)
  | table (entries : List (String × Toml))

end OrderedBuild
