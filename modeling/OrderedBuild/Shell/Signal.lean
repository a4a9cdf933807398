namespace OrderedBuild.Shell.Signal

def table : List (String × Nat × String) :=
  [("HUP", 1, "Hangup"), ("INT", 2, ""), ("QUIT", 3, "Quit"), ("ILL", 4, "Illegal instruction"),
    ("TRAP", 5, "Trace/breakpoint trap"), ("ABRT", 6, "Aborted"), ("BUS", 7, "Bus error"),
    ("FPE", 8, "Floating point exception"), ("KILL", 9, "Killed"),
    ("USR1", 10, "User defined signal 1"), ("SEGV", 11, "Segmentation fault"),
    ("USR2", 12, "User defined signal 2"), ("PIPE", 13, ""), ("ALRM", 14, "Alarm clock"),
    ("TERM", 15, "Terminated"), ("CHLD", 17, ""), ("CONT", 18, ""), ("URG", 23, ""),
    ("XCPU", 24, "CPU time limit exceeded"), ("WINCH", 28, "")]

def interrupt : Nat := 2

def ignored : List Nat := [0, 17, 18, 23, 28]

def nameOf (n : Nat) : String :=
  match table.find? (·.2.1 = n) with
  | some (name, _) => name
  | none => toString n

def ofText? (s : String) : Option Nat :=
  match s.toNat? with
  | some n => some n
  | none =>
    (table.find? fun e => e.1 = s || "SIG" ++ e.1 = s).map (·.2.1)

def farewell (n : Nat) : String :=
  match table.find? (·.2.1 = n) with
  | some (_, _, text) => text
  | none => ""

end OrderedBuild.Shell.Signal
