import TagQuery.Pattern.Matcher

/-!
What can go wrong, what is said about it, and the code the program ends with.
-/

namespace TagQuery

inductive Failure where
  | config (message : String) (path? : Option String)
  | argument (message : String)
  | io (path message : String)
  | pattern (e : PatternError)
  | internal (message : String)
  deriving DecidableEq, Repr

inductive ExitCode where
  | success
  | noMatch
  | refused
  | broken
  deriving DecidableEq, Repr

def ExitCode.toNat : ExitCode → Nat
  | success => 0
  | noMatch => 1
  | refused => 2
  | broken => 3

namespace Failure

def message : Failure → String
  | config m _ => "config error: " ++ m
  | argument m => "argument error: " ++ m
  | io path m => "io error: " ++ path ++ ": " ++ m
  | pattern e => e.message
  | internal m => "internal error: " ++ m

/-- The file that the failure is about. -/
def path? : Failure → Option String
  | config _ p => p
  | io p _ => some p
  | _ => none

/-- What the user gave is refused; all else is broken. -/
def exitCode : Failure → ExitCode
  | config .. | argument _ | pattern _ => .refused
  | io .. | internal _ => .broken

end Failure

end TagQuery
