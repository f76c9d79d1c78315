namespace HostMonitor.Toml

inductive Value : Type
  | string (s : String)
  | integer (n : Int)
  | float
  | boolean (b : Bool)
  | datetime
  | array (items : List Value)
  | table (entries : List (String × Value))
  deriving Inhabited

structure Origin : Type where
  implied : Bool
  dotted : Bool
  deriving DecidableEq

inductive Item : Type
  | leaf (v : Value)
  | table (origin : Origin) (entries : List (String × Item))
  | series (tables : List (Origin × List (String × Item)))
  deriving Inhabited

abbrev Draft : Type := Origin × List (String × Item)

def Draft.blank (origin : Origin) : Draft := (origin, [])

def setItem (k : String) (x : Item) : List (String × Item) → List (String × Item)
  | [] => [(k, x)]
  | (k', x') :: es => if k' = k then (k, x) :: es else (k', x') :: setItem k x es

/-- Changes the table that `path` leads to. Tables on the way are made where there are none. A
dotted key may not lead through a table that has its own header. -/
def changeAt (dotted : Bool) (f : Draft → Option Draft) : List String → Draft → Option Draft
  | [], t => f t
  | k :: path, (origin, es) =>
    match es.lookup k with
    | none => do
      let (o, sub) ← changeAt dotted f path (.blank ⟨true, dotted⟩)
      return (origin, setItem k (.table o sub) es)
    | some (.leaf _) => none
    | some (.series []) => none
    | some (.series (t :: ts)) => do
      return (origin, setItem k (.series ((← changeAt dotted f path t) :: ts)) es)
    | some (.table o sub) =>
      if dotted && !o.implied then none
      else do
        let (o, sub) ← changeAt dotted f path (o, sub)
        return (origin, setItem k (.table o sub) es)

def addEntry? (path : List String) (key : String) (v : Value) (t : Draft) : Option Draft :=
  changeAt true (fun (origin, es) =>
    if origin.dotted = path.isEmpty then none
    else if (es.lookup key).isSome then none
    else some (origin, es ++ [(key, .leaf v)])) path t

structure Section : Type where
  path : List String
  element : Bool
  draft : Draft

def Section.close? (s : Section) (root : Draft) : Option Draft :=
  match s.path.getLast? with
  | none => some s.draft
  | some key =>
    changeAt false (fun (origin, es) =>
      if s.element then
        match es.lookup key with
        | none => some (origin, es ++ [(key, .series [s.draft])])
        | some (.series ts) => some (origin, setItem key (.series (s.draft :: ts)) es)
        | some _ => none
      else some (origin, setItem key (.table s.draft.1 s.draft.2) es)) s.path.dropLast root

/-- The section that a header begins. A table that other headers or keys made before may be taken
up once, unless dotted keys defined it. -/
def Section.open? (path : List String) (element : Bool) (root : Draft) :
    Option (Section × Draft) := do
  let key ← path.getLast?
  let fresh : Draft := .blank ⟨false, false⟩
  let rec find (draft : Draft) : List String → Option Draft
    | [] => some draft
    | k :: ks =>
      match draft.2.lookup k with
      | none => some (.blank ⟨true, false⟩)
      | some (.leaf _) => none
      | some (.series []) => none
      | some (.series (t :: _)) => find t ks
      | some (.table o sub) => find (o, sub) ks
  let parent ← find root path.dropLast
  match parent.2.lookup key with
  | none => return (⟨path, element, fresh⟩, root)
  | some (.series _) => if element then return (⟨path, element, fresh⟩, root) else none
  | some (.table o sub) =>
    if element || !o.implied || o.dotted then none
    else return (⟨path, false, (⟨false, false⟩, sub)⟩, root)
  | some (.leaf _) => none

mutual

def Item.value : Item → Value
  | .leaf v => v
  | .table _ es => .table (entryValues es)
  | .series ts => .array (seriesValues ts).reverse

def entryValues : List (String × Item) → List (String × Value)
  | [] => []
  | (k, x) :: es => (k, x.value) :: entryValues es

def seriesValues : List (Origin × List (String × Item)) → List Value
  | [] => []
  | (_, es) :: ts => .table (entryValues es) :: seriesValues ts

end

end HostMonitor.Toml
