import HostMonitor.Host.IdFile

namespace HostMonitor.Rehearsal

open Files (Path Tree)

structure Shelf : Type where
  tree : Tree
  name : String

def Shelf.path (s : Shelf) : Path := .ofText ("/" ++ s.name)

namespace Shelf

inductive Op : Type
  | load
  | save (id : String)
  | write (content : List UInt8)
  | makeDirectory
  | blockParent
  | remove
  | read
  | describe

inductive Outcome : Type
  | done
  | text (s : Option String)
  | saved (r : Except Files.Error Unit)

def start (home path : String) : Shelf :=
  ⟨.empty [home], home ++ "/" ++ path⟩

def withParent (t : Tree) (p : Path) : Tree :=
  match p.parent? with
  | some d => ((t.ensureDirectories d).toOption).getD t
  | none => t

def placed (t : Tree) (p : Path) (content : List UInt8) : Tree :=
  let t := withParent t p
  ((t.write p content).toOption).getD t

def step (s : Shelf) : Op → Outcome × Shelf
  | .load => (.text (Host.IdFile.load s.tree s.path), s)
  | .save id =>
    match Host.IdFile.save s.tree s.path id with
    | .ok t => (.saved (.ok ()), { s with tree := t })
    | .error e => (.saved (.error e), s)
  | .write content => (.done, { s with tree := placed s.tree s.path content })
  | .makeDirectory =>
    let t := s.tree.removeAll s.path
    (.done, { s with tree := ((t.ensureDirectories s.path).toOption).getD t })
  | .blockParent =>
    (.done, match s.path.parent? with
      | some d => { s with tree := placed (s.tree.removeAll d) d [] }
      | none => s)
  | .remove => (.done, { s with tree := s.tree.removeAll s.path })
  | .describe => (.text (some s.name), s)
  | .read => (.text ((s.tree.read s.path).toOption.map Text.decodeLossy), s)

end Shelf

end HostMonitor.Rehearsal
