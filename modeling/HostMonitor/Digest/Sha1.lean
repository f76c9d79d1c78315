namespace HostMonitor.Digest.Sha1

structure State : Type where
  a : UInt32
  b : UInt32
  c : UInt32
  d : UInt32
  e : UInt32

def start : State := ⟨0x67452301, 0xefcdab89, 0x98badcfe, 0x10325476, 0xc3d2e1f0⟩

def rotateLeft (x : UInt32) (n : UInt32) : UInt32 := x <<< n ||| x >>> (32 - n)

def padded (bs : List UInt8) : List UInt8 :=
  let zeros := (119 - bs.length % 64) % 64
  let bits := UInt64.ofNat (8 * bs.length)
  let size := [56, 48, 40, 32, 24, 16, 8, 0].map fun (n : UInt64) => (bits >>> n).toUInt8
  bs ++ 0x80 :: List.replicate zeros 0 ++ size

def words : List UInt8 → List UInt32
  | a :: b :: c :: d :: rest =>
    (a.toUInt32 <<< 24 ||| b.toUInt32 <<< 16 ||| c.toUInt32 <<< 8 ||| d.toUInt32) :: words rest
  | _ => []

def expand (recent : List UInt32) : Nat → List UInt32
  | 0 => []
  | n + 1 =>
    let word (i : Nat) := recent.getD i 0
    let w := rotateLeft (word 2 ^^^ word 7 ^^^ word 13 ^^^ word 15) 1
    w :: expand (w :: recent.take 15) n

def round (t : Nat) (b c d : UInt32) : UInt32 × UInt32 :=
  if t < 20 then ((b &&& c) ||| (~~~b &&& d), 0x5a827999)
  else if t < 40 then (b ^^^ c ^^^ d, 0x6ed9eba1)
  else if t < 60 then ((b &&& c) ||| (b &&& d) ||| (c &&& d), 0x8f1bbcdc)
  else (b ^^^ c ^^^ d, 0xca62c1d6)

def rounds (s : State) (t : Nat) : List UInt32 → State
  | [] => s
  | w :: ws =>
    let (f, k) := round t s.b s.c s.d
    rounds ⟨rotateLeft s.a 5 + f + s.e + k + w, s.a, rotateLeft s.b 30, s.c, s.d⟩ (t + 1) ws

def block (s : State) (ws : List UInt32) : State :=
  let r := rounds s 0 (ws ++ expand ws.reverse 64)
  ⟨s.a + r.a, s.b + r.b, s.c + r.c, s.d + r.d, s.e + r.e⟩

def blocks (s : State) : List UInt32 → State
  | [] => s
  | w :: ws => blocks (block s (w :: ws.take 15)) (ws.drop 15)
termination_by ws => ws.length
decreasing_by
  simp only [List.length_drop, List.length_cons]
  omega

def digest (bs : List UInt8) : State := blocks start (words (padded bs))

def lastByte (bs : List UInt8) : UInt8 := (digest bs).e.toUInt8

end HostMonitor.Digest.Sha1
