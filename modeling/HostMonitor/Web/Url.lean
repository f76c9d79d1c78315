import HostMonitor.Web.Percent

namespace HostMonitor.Web

inductive Scheme : Type
  | http
  | https
  deriving DecidableEq

structure Url : Type where
  scheme : Scheme
  authority : String
  segments : List String
  query : Option String
  deriving DecidableEq

namespace Url

def Scheme.ofName? (name : String) : Option Scheme :=
  match name.toLower with
  | "http" => some .http
  | "https" => some .https
  | _ => none

def isSlash (c : Char) : Bool := c == '/' || c == '\\'

def isPlain (c : Char) : Bool := '!' ≤ c && c ≤ '~'

def staysInPath (c : Char) : Bool :=
  isPlain c && !(['"', '#', '<', '>', '?', '`', '\x7b', '\x7d'].contains c)

def staysInQuery (c : Char) : Bool := isPlain c && !(['"', '#', '\'', '<', '>'].contains c)

def splitPath : List Char → List (List Char)
  | [] => [[]]
  | c :: cs =>
    if isSlash c then [] :: splitPath cs
    else
      match splitPath cs with
      | [] => [[c]]
      | s :: ss => (c :: s) :: ss

def isSelf (s : String) : Bool := ["." , "%2e"].contains s.toLower

def isParent (s : String) : Bool := ["..", ".%2e", "%2e.", "%2e%2e"].contains s.toLower

def isDrive (s : String) : Bool :=
  match s.toList with
  | [c, d] => c.isAlpha && (d == ':' || d == '|')
  | _ => false

def leave : List String → List String
  | [] => []
  | s :: ss => if isDrive s then s :: ss else ss

/-- Resolves `.` and `..`, which at the end leave an empty segment. The segments before, the last
one first, are given. -/
def resolve (before : List String) : List String → List String
  | [] => before.reverse
  | [s] =>
    (if isParent s then "" :: leave before
    else if isSelf s then "" :: before
    else s :: before).reverse
  | s :: ss =>
    if isParent s then resolve (leave before) ss
    else if isSelf s then resolve before ss
    else resolve (s :: before) ss

def encodePath (cs : List Char) : List String :=
  resolve [] ((splitPath cs).map fun s => String.ofList (percentEncode staysInPath s))

def isSchemeChar (c : Char) : Bool := c.isAlphanum || c == '+' || c == '-' || c == '.'

def isBlank (c : Char) : Bool := c ≤ ' '

def significant (cs : List Char) : List Char :=
  ((cs.dropWhile isBlank).reverse.dropWhile isBlank).reverse.filter fun c =>
    !(c == '\t' || c == '\n' || c == '\r')

def ofRest? (scheme : Scheme) (cs : List Char) : Option Url :=
  let cs := cs.dropWhile isSlash
  let (authority, cs) := cs.span fun c => !(isSlash c || c == '?' || c == '#')
  let (path, query) := (cs.takeWhile (· != '#')).span (· != '?')
  if authority.isEmpty then none
  else some {
    scheme
    authority := String.ofList authority
    segments := encodePath (path.drop 1)
    query :=
      match query with
      | [] => none
      | _ :: q => some (String.ofList (percentEncode staysInQuery q)) }

def parse? (s : String) : Option Url :=
  let (name, rest) := (significant s.toList).span isSchemeChar
  match rest with
  | ':' :: rest => do ofRest? (← Scheme.ofName? (String.ofList name)) rest
  | _ => none

def addField (u : Url) (name value : String) : Url :=
  let field := formEncode name ++ "=" ++ formEncode value
  { u with
    query :=
      match u.query with
      | none | some "" => some field
      | some q => some (q ++ "&" ++ field) }

def target (u : Url) : String :=
  "/" ++ "/".intercalate u.segments ++
    match u.query with
    | some q => "?" ++ q
    | none => ""

def render (u : Url) : String :=
  (match u.scheme with
  | .http => "http://"
  | .https => "https://") ++ u.authority ++ u.target

end Url

end HostMonitor.Web
