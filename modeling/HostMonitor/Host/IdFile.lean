import HostMonitor.Files.Tree
import HostMonitor.Text.Blank
import HostMonitor.Text.Utf8

namespace HostMonitor.Host.IdFile

open Files (Path Tree)

def ofContent? (content : List UInt8) : Option String := do
  let id := Text.trim (← Text.decode? content)
  if id.isEmpty then none else some id

def load (t : Tree) (p : Path) : Option String :=
  match t.read p with
  | .ok content => ofContent? content
  | .error _ => none

def save (t : Tree) (p : Path) (id : String) : Except Files.Error Tree := do
  let t ← match p.parent? with
    | some directory => t.ensureDirectories directory
    | none => pure t
  t.write p (Text.bytes id)

end HostMonitor.Host.IdFile
