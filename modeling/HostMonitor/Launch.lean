import HostMonitor.Config
import HostMonitor.Files.Tree
import HostMonitor.Text.Utf8

namespace HostMonitor

inductive LoadError : Type
  | unreadable (path : String) (cause : Files.Error)
  | invalid (path : String) (cause : ConfigError)

def LoadError.context : LoadError → String
  | .unreadable path _ => "failed to read config file " ++ path
  | .invalid path _ => "invalid config file " ++ path

def Config.ofFile (path : String) (content : Except Files.Error (List UInt8)) :
    Except LoadError Config :=
  match content with
  | .error e => .error (.unreadable path e)
  | .ok bs =>
    match Text.decode? bs with
    | none => .error (.unreadable path .invalidText)
    | some text =>
      match Config.parse text with
      | .ok c => .ok c
      | .error e => .error (.invalid path e)

namespace Launch

def configPath (args : List String) : String := args.head?.getD "config/agent.toml"

def errorLine (reason : String) : String := "Error: " ++ reason

def failureCode : Nat := 1

/-- The exit code of a program that breaks off instead of reporting an error. -/
def panicCode : Nat := 101

end Launch

end HostMonitor
