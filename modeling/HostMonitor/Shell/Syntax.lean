namespace HostMonitor.Shell

inductive Expansion : Type
  | parameter (name : String)
  | arithmetic (expression : String)
  | output (command : String)
  deriving DecidableEq

inductive Part : Type
  | literal (s : String) (quoted : Bool)
  | expansion (e : Expansion) (quoted : Bool)
  deriving DecidableEq

abbrev Word : Type := List Part

structure Redirect : Type where
  descriptor : Nat
  duplicates : Bool
  target : Word

inductive Command : Type
  | simple (line : Nat) (assignments : List (String × Word)) (words : List Word)
    (redirects : List Redirect)
  | pipe (left right : Command)
  | negate (c : Command)
  | both (left right : Command)
  | either (left right : Command)
  | sequence (left right : Command)
  | background (c : Command)
  | group (c : Command) (redirects : List Redirect)
  | subshell (c : Command) (redirects : List Redirect)
  | choice (condition yes no : Command)
  | loop (result : Bool) (condition body : Command)
  | each (name : String) (values : List Word) (body : Command)
  | nothing

structure SyntaxError : Type where
  line : Nat
  reason : String

end HostMonitor.Shell
