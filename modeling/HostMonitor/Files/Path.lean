namespace HostMonitor.Files

structure Path : Type where
  absolute : Bool
  names : List String
  slash : Bool
  deriving DecidableEq

namespace Path

def ofText (s : String) : Path where
  absolute := s.startsWith "/"
  names := (s.splitOn "/").filter fun n => n != "" && n != "."
  slash := s.endsWith "/" || s.endsWith "/."

def parent? (p : Path) : Option Path :=
  if p.names.isEmpty then none else some { p with names := p.names.dropLast, slash := false }

def render (p : Path) : String :=
  let names := "/".intercalate p.names
  if p.absolute then "/" ++ names else if p.names.isEmpty then "." else names

end Path

end HostMonitor.Files
