namespace HostMonitor.Text

def bytes (s : String) : List UInt8 := s.toUTF8.toList

def replacement : Char := '\ufffd'

/-- The bytes that may follow the lead byte `b`: how many, and the range of the first of them. -/
def continuation? (b : UInt8) : Option (Nat × UInt8 × UInt8) :=
  if b < 0x80 then some (0, 0x80, 0xbf)
  else if 0xc2 ≤ b && b ≤ 0xdf then some (1, 0x80, 0xbf)
  else if b == 0xe0 then some (2, 0xa0, 0xbf)
  else if b == 0xed then some (2, 0x80, 0x9f)
  else if 0xe1 ≤ b && b ≤ 0xef then some (2, 0x80, 0xbf)
  else if b == 0xf0 then some (3, 0x90, 0xbf)
  else if 0xf1 ≤ b && b ≤ 0xf3 then some (3, 0x80, 0xbf)
  else if b == 0xf4 then some (3, 0x80, 0x8f)
  else none

def leadBits (n : Nat) (b : UInt8) : Nat :=
  match n with
  | 0 => b.toNat
  | 1 => b.toNat % 0x20
  | 2 => b.toNat % 0x10
  | _ => b.toNat % 8

/-- Where the decoder stands: between characters, or inside one whose lead byte and further bytes
so far carry `code`, with `owed` bytes still to come, the next one from `low` to `high`. -/
inductive Utf8State : Type
  | start
  | inside (code owed : Nat) (low high : UInt8)

def Utf8State.lead (b : UInt8) : Option Char × Utf8State :=
  match continuation? b with
  | none => (some replacement, .start)
  | some (0, _, _) => (some (Char.ofNat b.toNat), .start)
  | some (n, low, high) => (none, .inside (leadBits n b) n low high)

def decodeFrom : Utf8State → List UInt8 → List Char
  | .start, [] => []
  | .inside .., [] => [replacement]
  | .start, b :: bs =>
    let (c, st) := Utf8State.lead b
    c.toList ++ decodeFrom st bs
  | .inside code owed low high, b :: bs =>
    if low ≤ b && b ≤ high then
      let code := code * 0x40 + b.toNat % 0x40
      if owed ≤ 1 then Char.ofNat code :: decodeFrom .start bs
      else decodeFrom (.inside code (owed - 1) 0x80 0xbf) bs
    else
      let (c, st) := Utf8State.lead b
      replacement :: (c.toList ++ decodeFrom st bs)

def decodeLossy (bs : List UInt8) : String := String.ofList (decodeFrom .start bs)

def decode? (bs : List UInt8) : Option String :=
  let s := decodeLossy bs
  if bytes s == bs then some s else none

end HostMonitor.Text
