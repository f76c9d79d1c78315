import HostMonitor.Json.Value
import HostMonitor.Number.Shortest

namespace HostMonitor.Json

def hexChar (n : Nat) : Char := if n < 10 then Char.ofNat (48 + n) else Char.ofNat (87 + n)

def escaped (c : Char) : List Char :=
  match c with
  | '"' => ['\\', '"']
  | '\\' => ['\\', '\\']
  | '\x08' => ['\\', 'b']
  | '\x0c' => ['\\', 'f']
  | '\n' => ['\\', 'n']
  | '\r' => ['\\', 'r']
  | '\t' => ['\\', 't']
  | c =>
    if c.toNat < 0x20 then ['\\', 'u', '0', '0', hexChar (c.toNat / 16), hexChar (c.toNat % 16)]
    else [c]

def quoted (s : String) : String := String.ofList ('"' :: s.toList.flatMap escaped ++ ['"'])

mutual

def Value.render : Value → String
  | .null => "null"
  | .bool b => if b then "true" else "false"
  | .whole n => toString n.value
  | .real x => Shortest.render x.value
  | .string s => quoted s
  | .array xs => "[" ++ ",".intercalate (Value.renderItems xs) ++ "]"
  | .object ms => "\x7b" ++ ",".intercalate (Value.renderMembers ms) ++ "\x7d"

def Value.renderItems : List Value → List String
  | [] => []
  | x :: xs => x.render :: Value.renderItems xs

def Value.renderMembers : List (String × Value) → List String
  | [] => []
  | (k, x) :: ms => (quoted k ++ ":" ++ x.render) :: Value.renderMembers ms

end

end HostMonitor.Json
