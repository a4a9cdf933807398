namespace OrderedBuild.Shell

abbrev RawWord := List Char

inductive RedirectKind where
  | read
  | write
  | append
  | readWrite
  /-- The target names another descriptor, or a dash to close this one. -/
  | duplicate
  /-- The target is the document itself. -/
  | document (expands : Bool)
deriving DecidableEq, Repr

structure Redirect where
  descriptor : Nat
  kind : RedirectKind
  target : RawWord
deriving DecidableEq, Repr

inductive Command where
  | simple (line : Nat) (words : List RawWord) (redirects : List Redirect)
  | negate (c : Command)
  | pipe (source sink : Command)
  | both (a b : Command)
  | either (a b : Command)
  | inOrder (a b : Command)
  | background (c : Command)
  | choose (test yes : Command) (no : Option Command)
  /-- Runs as long as the test gives `wanted`. -/
  | repeatWhile (wanted : Bool) (test body : Command)
  /-- Without words it goes through the arguments. -/
  | forEach (name : String) (words : Option (List RawWord)) (body : Command)
  | select (word : RawWord) (arms : List (List RawWord × Option Command))
  | subshell (c : Command)
  | redirected (c : Command) (redirects : List Redirect)
  | define (name : String) (body : Command)

namespace Command

def sequence (first : Command) (rest : List Command) : Command :=
  rest.foldl .inOrder first

end Command

end OrderedBuild.Shell
