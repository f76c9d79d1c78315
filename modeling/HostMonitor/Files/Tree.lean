import HostMonitor.Files.Path

namespace HostMonitor.Files

inductive Error : Type
  | notFound
  | alreadyExists
  | notDirectory
  | isDirectory
  | nameTooLong
  | invalidPath
  | invalidText
  | other (text : String)
  deriving DecidableEq

def Error.describe : Error → String
  | .notFound => "No such file or directory (os error 2)"
  | .alreadyExists => "File exists (os error 17)"
  | .notDirectory => "Not a directory (os error 20)"
  | .isDirectory => "Is a directory (os error 21)"
  | .nameTooLong => "File name too long (os error 36)"
  | .invalidPath => "file name contained an unexpected NUL byte"
  | .invalidText => "stream did not contain valid UTF-8"
  | .other text => text

inductive Entry : Type
  | file (content : List UInt8)
  | directory
  deriving DecidableEq

abbrev Place : Type := List String

/-- What stands at each place. The program is assumed to have access to everything, and every file
to have a content of its own: what can be written can also be read. -/
structure Tree : Type where
  /-- Newer entries stand before older ones, which they hide; `none` where there is nothing any
  more. -/
  entries : List (Place × Option Entry)
  home : Place

namespace Tree

def empty (home : Place) : Tree := ⟨[(home, some .directory)], home⟩

def look? (t : Tree) (place : Place) : Option Entry :=
  if place.isEmpty then some .directory else (t.entries.lookup place).join

def put (t : Tree) (place : Place) (e : Option Entry) : Tree :=
  { t with entries := (place, e) :: t.entries }

def longestName : Nat := 255

def walk (t : Tree) (place : Place) : List String → Except Error Place
  | [] => .ok place
  | name :: names =>
    match t.look? place with
    | none => .error .notFound
    | some (.file _) => .error .notDirectory
    | some .directory =>
      if name = ".." then t.walk place.dropLast names
      else if longestName < name.utf8ByteSize then .error .nameTooLong
      else t.walk (place ++ [name]) names

def resolve (t : Tree) (p : Path) : Except Error Place :=
  if p.names.any fun n => n.contains '\x00' then .error .invalidPath
  else t.walk (if p.absolute then [] else t.home) p.names

def read (t : Tree) (p : Path) : Except Error (List UInt8) := do
  match t.look? (← t.resolve p) with
  | none => throw .notFound
  | some .directory => throw .isDirectory
  | some (.file content) => if p.slash then throw .notDirectory else return content

def write (t : Tree) (p : Path) (content : List UInt8) : Except Error Tree := do
  let place ← t.resolve p
  match t.look? place with
  | some .directory => throw .isDirectory
  | some (.file _) =>
    if p.slash then throw .notDirectory else return t.put place (some (.file content))
  | none => if p.slash then throw .isDirectory else return t.put place (some (.file content))

def makeDirectory (t : Tree) (p : Path) : Except Error Tree := do
  let place ← t.resolve p
  match t.look? place with
  | some _ => throw .alreadyExists
  | none => return t.put place (some .directory)

def isDirectory (t : Tree) (p : Path) : Bool :=
  match t.resolve p with
  | .ok place => t.look? place = some .directory
  | .error _ => false

def ensureDirectory (t : Tree) (p : Path) : Except Error Tree :=
  match t.makeDirectory p with
  | .ok t => .ok t
  | .error e => if t.isDirectory p then .ok t else .error e

def ensureDirectories (t : Tree) (p : Path) : Except Error Tree :=
  if p.names.isEmpty then .ok t
  else
    match t.ensureDirectory p with
    | .error .notFound => do
      let t ← t.ensureDirectories { p with names := p.names.dropLast, slash := false }
      t.ensureDirectory p
    | r => r
termination_by p.names.length
decreasing_by
  have : p.names ≠ [] := by simp_all
  have := List.length_pos_iff.2 this
  simp only [List.length_dropLast]
  omega

def removeAll (t : Tree) (p : Path) : Tree :=
  match t.resolve p with
  | .error _ => t
  | .ok place =>
    let gone := (t.entries.map Prod.fst).filter place.isPrefixOf
    gone.foldl (fun t q => t.put q none) t

end Tree

end HostMonitor.Files
