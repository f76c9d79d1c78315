import HostMonitor.Text.Blank
import HostMonitor.Text.CaseTable
import HostMonitor.Text.WordTable

namespace HostMonitor.Regex

inductive CharSet : Type
  | range (first last : Nat)
  | word
  | digit
  | space
  | union (a b : CharSet)
  | inter (a b : CharSet)
  | diff (a b : CharSet)
  | compl (a : CharSet)
  | anyCase (a : CharSet)

namespace CharSet

def none : CharSet := .range 1 0

def ofChar (c : Char) : CharSet := .range c.toNat c.toNat

def mem : CharSet → Char → Bool
  | .range a b, c => a ≤ c.toNat && c.toNat ≤ b
  | .word, c => Text.isWord c
  | .digit, c => Text.isDigit c
  | .space, c => Text.isBlank c
  | .union a b, c => a.mem c || b.mem c
  | .inter a b, c => a.mem c && b.mem c
  | .diff a b, c => a.mem c && !b.mem c
  | .compl a, c => !a.mem c
  | .anyCase a, c => (Text.caseVariants c).any a.mem

def weight : CharSet → Nat
  | .range a b => if b < 0x80 then 32 else if a = b then 128 else 400
  | .word => 50000
  | .digit => 5000
  | .space => 800
  | .union a b => if a.weight ≤ 32 then max a.weight b.weight else a.weight + b.weight
  | .inter a _ => a.weight
  | .diff a _ => a.weight
  | .compl a => max 600 a.weight
  | .anyCase a => a.weight

end CharSet

inductive Look : Type
  | textStart
  | textEnd
  | lineStart
  | lineEnd
  | boundary (set : CharSet)
  | noBoundary (set : CharSet)
  | wordStart (set : CharSet)
  | wordEnd (set : CharSet)
  | afterOther (set : CharSet)
  | beforeOther (set : CharSet)

def inWord (set : CharSet) (c : Option Char) : Bool := (c.map set.mem).getD false

def Look.holds (l : Look) (before after : Option Char) : Bool :=
  match l with
  | .textStart => before.isNone
  | .textEnd => after.isNone
  | .lineStart => before.isNone || before == some '\n'
  | .lineEnd => after.isNone || after == some '\n'
  | .boundary w => inWord w before != inWord w after
  | .noBoundary w => inWord w before == inWord w after
  | .wordStart w => !inWord w before && inWord w after
  | .wordEnd w => inWord w before && !inWord w after
  | .afterOther w => !inWord w before
  | .beforeOther w => !inWord w after

end Regex

inductive Regex : Type
  | empty
  | char (set : Regex.CharSet)
  | look (l : Regex.Look)
  | cat (a b : Regex)
  | alt (a b : Regex)
  | loop (a : Regex) (least : Nat) (most : Option Nat)

namespace Regex

abbrev Marks : Type := List Bool

def Marks.union (s t : Marks) : Marks := List.zipWith (· || ·) s t

def surroundings (cs : List Char) : List (Option Char × Option Char) :=
  List.zip (none :: cs.map some) (cs.map some ++ [none])

def isWidthless : Regex → Bool
  | .empty => true
  | .char _ => false
  | .look _ => true
  | .cat a b => a.isWidthless && b.isWidthless
  | .alt a b => a.isWidthless && b.isWidthless
  | .loop a _ most => a.isWidthless || most == some 0

def iterate (f : Marks → Marks) : Nat → Marks → Marks
  | 0, s => s
  | n + 1, s => iterate f n (f s)

def upTo (f : Marks → Marks) : Nat → Marks → Marks
  | 0, s => s
  | n + 1, s => s.union (f (upTo f n s))

/-- The positions where matches end that begin in `s`. No more repetitions are tried than the text
has positions, for the set of ends grows with each that counts. -/
def ends (cs : List Char) : Regex → Marks → Marks
  | .empty, s => s
  | .char set, s => false :: List.zipWith (fun m c => m && set.mem c) s cs
  | .look l, s =>
    List.zipWith (fun m (p : Option Char × Option Char) => m && l.holds p.1 p.2) s (surroundings cs)
  | .cat a b, s => ends cs b (ends cs a s)
  | .alt a b, s => (ends cs a s).union (ends cs b s)
  | .loop a least most, s =>
    let least' := if a.isWidthless then min least 1 else least
    let rest := match most with
      | some m => min (m - least) (cs.length + 1)
      | none => cs.length + 1
    upTo (ends cs a) rest (iterate (ends cs a) least' s)

def isMatch (r : Regex) (s : String) : Bool :=
  let cs := s.toList
  (ends cs r (true :: cs.map fun _ => true)).any id

def weight : Regex → Nat
  | .empty => 0
  | .char set => set.weight
  | .look _ => 24
  | .cat a b => a.weight + b.weight
  | .alt a b => a.weight + b.weight + 24
  | .loop a least most =>
    if a.isWidthless then a.weight else a.weight * max 1 (most.getD (least + 1))

def weightLimit : Nat := 0xa0_0000

end Regex

end HostMonitor
