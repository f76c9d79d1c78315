namespace HostMonitor.Text

def isBlank (c : Char) : Bool :=
  let n := c.toNat
  (0x09 ≤ n && n ≤ 0x0d) || n == 0x20 || n == 0x85 || n == 0xa0 || n == 0x1680 ||
    (0x2000 ≤ n && n ≤ 0x200a) || n == 0x2028 || n == 0x2029 || n == 0x202f || n == 0x205f ||
    n == 0x3000

def dropLeading (cs : List Char) : List Char := cs.dropWhile isBlank

def dropTrailing (cs : List Char) : List Char := (cs.reverse.dropWhile isBlank).reverse

def trimmed (cs : List Char) : List Char := dropTrailing (dropLeading cs)

def trim (s : String) : String := String.ofList (trimmed s.toList)

def isVoid (s : String) : Bool := s.toList.all isBlank

theorem dropLeading_eq_self {c : Char} {cs : List Char} (h : isBlank c = false) :
    dropLeading (c :: cs) = c :: cs := by
  simp [dropLeading, h]

theorem head?_dropLeading {cs : List Char} {c : Char} (h : (dropLeading cs).head? = some c) :
    isBlank c = false := by
  have := List.head?_dropWhile_not isBlank cs
  rw [← dropLeading, h] at this
  simpa using this

end HostMonitor.Text
