import HostMonitor.Json.Value
import HostMonitor.Time.Rfc3339

namespace HostMonitor.Json

class Form (α : Type) : Type where
  encode : α → Value
  decode? : Document → Option α

export Form (encode decode?)

structure Fields : Type where
  named : Bool
  present : List (String × Document)

def Document.fields? (names : List String) : Document → Option Fields
  | .object ms => do
    let ms ← ms.mapM fun m => m.1.map (·, m.2)
    let known := ms.filter fun m => names.contains m.1
    if (known.map Prod.fst).Nodup then return ⟨true, known⟩ else none
  | .array xs => if xs.length ≤ names.length then some ⟨false, names.zip xs⟩ else none
  | _ => none

namespace Fields

variable {α : Type}

def get? (fs : Fields) (name : String) : Option Document := fs.present.lookup name

def required [Form α] (fs : Fields) (name : String) : Option α := fs.get? name >>= decode?

def defaulted [Form α] (fs : Fields) (name : String) (d : α) : Option α :=
  match fs.get? name with
  | some x => decode? x
  | none => some d

def optional [Form α] (fs : Fields) (name : String) : Option (Option α) :=
  match fs.get? name with
  | some .null => some none
  | some x => (decode? x).map some
  | none => if fs.named then some none else none

end Fields

instance : Form Value where
  encode v := v
  decode? := Document.value?

instance : Form String where
  encode := .string
  decode?
    | .string s => some s
    | _ => none

instance : Form Int64 where
  encode n := .whole (.ofInt64 n)
  decode?
    | .whole n => if n.value < 0x8000_0000_0000_0000 then some (Int64.ofInt n.value) else none
    | _ => none

instance : Form UInt32 where
  encode n := .whole (.ofUInt32 n)
  decode?
    | .whole n =>
      if 0 ≤ n.value ∧ n.value < 0x1_0000_0000 then some (UInt32.ofNat n.value.toNat) else none
    | _ => none

/-- A number that is not finite is written as `null`, and a whole one may be read. -/
instance : Form Binary64 where
  encode := .ofBinary64
  decode?
    | .real x => some x.value
    | .whole n => some (.ofInt n.value)
    | _ => none

instance : Form Instant where
  encode t := .string (Rfc3339.render t)
  decode?
    | .string s => Rfc3339.parse? s
    | _ => none

instance {α : Type} [Form α] : Form (Option α) where
  encode x := .ofOption encode x
  decode?
    | .null => some none
    | d => (decode? d).map some

instance {α : Type} [Form α] : Form (List α) where
  encode xs := .array (xs.map encode)
  decode?
    | .array ds => ds.mapM decode?
    | _ => none

def decodeMember? {α : Type} [Form α] (m : Option String × Document) : Option (String × α) := do
  return (← m.1, ← decode? m.2)

instance {α : Type} [Form α] : Form (Table α) where
  encode t := .object (t.entries.map fun e => (e.1, encode e.2))
  decode?
    | .object ms => (ms.mapM decodeMember?).map Table.ofList
    | _ => none

def encodeSecond (t : Instant) : Value := .whole (.ofInt64 (Int64.ofInt t.seconds))

def decodeSecond? : Document → Option Instant
  | .whole n => Instant.of? n.value 0
  | _ => none

end HostMonitor.Json
