import HostMonitor.Number.Binary64
import HostMonitor.Table

namespace HostMonitor.Json

structure Whole : Type where
  value : Int
  lower : -0x8000_0000_0000_0000 ≤ value
  upper : value < 0x1_0000_0000_0000_0000
  deriving DecidableEq

structure Real : Type where
  value : Binary64
  finite : value.isFinite
  deriving DecidableEq

inductive Value : Type
  | null
  | bool (b : Bool)
  | whole (n : Whole)
  | real (x : Real)
  | string (s : String)
  | array (items : List Value)
  | object (members : List (String × Value))
  deriving Inhabited

inductive Document : Type
  | null
  | bool (b : Bool)
  | whole (n : Whole)
  | real (x : Real)
  | string (s : String)
  | array (items : List Document)
  | object (members : List (Option String × Document))
  /-- A number beyond the range of `Real`, a text with half a surrogate pair, or a container
  nested too deep. -/
  | unreadable
  deriving Inhabited

def Whole.ofInt? (n : Int) : Option Whole :=
  if h : -0x8000_0000_0000_0000 ≤ n ∧ n < 0x1_0000_0000_0000_0000 then some ⟨n, h.1, h.2⟩
  else none

def Whole.ofInt64 (n : Int64) : Whole where
  value := n.toInt
  lower := Int64.le_toInt n
  upper := Int.lt_trans (Int64.toInt_lt n) (by decide)

def Whole.ofUInt32 (n : UInt32) : Whole where
  value := n.toNat
  lower := by omega
  upper := by have := n.toNat_lt; omega

def Real.of? (x : Binary64) : Option Real :=
  if h : x.isFinite then some ⟨x, h⟩ else none

def Value.ofBinary64 (x : Binary64) : Value := ((Real.of? x).map .real).getD .null

def Value.ofOption {α : Type} (f : α → Value) (x : Option α) : Value := (x.map f).getD .null

mutual

def Value.toDocument : Value → Document
  | .null => .null
  | .bool b => .bool b
  | .whole n => .whole n
  | .real x => .real x
  | .string s => .string s
  | .array xs => .array (Value.toDocuments xs)
  | .object ms => .object (Value.toMembers ms)

def Value.toDocuments : List Value → List Document
  | [] => []
  | x :: xs => x.toDocument :: Value.toDocuments xs

def Value.toMembers : List (String × Value) → List (Option String × Document)
  | [] => []
  | (k, x) :: ms => (some k, x.toDocument) :: Value.toMembers ms

end

mutual

/-- The value of a document without unreadable parts; of members with one name the last counts. -/
def Document.value? : Document → Option Value
  | .null => some .null
  | .bool b => some (.bool b)
  | .whole n => some (.whole n)
  | .real x => some (.real x)
  | .string s => some (.string s)
  | .array xs => (Document.values? xs).map .array
  | .object ms => (Document.members? [] ms).map .object
  | .unreadable => none

def Document.values? : List Document → Option (List Value)
  | [] => some []
  | d :: ds => do return (← d.value?) :: (← Document.values? ds)

def Document.members? (before : List (String × Value)) :
    List (Option String × Document) → Option (List (String × Value))
  | [] => some before
  | (k, d) :: ms => do Document.members? (putEntry (← k) (← d.value?) before) ms

end

end HostMonitor.Json
