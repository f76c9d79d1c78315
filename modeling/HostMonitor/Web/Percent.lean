import HostMonitor.Text.Utf8

namespace HostMonitor.Web

def upperHexDigit (n : Nat) : Char := if n < 10 then Char.ofNat (48 + n) else Char.ofNat (55 + n)

def percentByte (b : UInt8) : List Char :=
  ['%', upperHexDigit (b.toNat / 16), upperHexDigit (b.toNat % 16)]

def percentChar (c : Char) : List Char := (Text.bytes c.toString).flatMap percentByte

def percentEncode (keep : Char → Bool) (cs : List Char) : List Char :=
  cs.flatMap fun c => if keep c then [c] else percentChar c

def staysInForm (c : Char) : Bool :=
  c.isAlphanum || c == '*' || c == '-' || c == '.' || c == '_'

def formEncode (s : String) : String :=
  String.ofList (s.toList.flatMap fun c =>
    if c == ' ' then ['+'] else percentEncode staysInForm [c])

end HostMonitor.Web
