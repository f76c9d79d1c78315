import HostMonitor.Json.Form

namespace HostMonitor.Host

structure Record : Type where
  id : String
  name : String := ""
  status : String := ""
  customIdentifier : Option String := none
  deriving DecidableEq, Inhabited

structure Interface : Type where
  name : String
  macAddress : Option String
  ipv4Addresses : List String
  ipv6Addresses : List String
  deriving DecidableEq, Inhabited

structure Spec : Type where
  name : String
  detail : Json.Value
  interfaces : List Interface
  roles : List String
  checks : List String
  displayName : Option String
  customIdentifier : Option String
  deriving Inhabited

open Json

instance : Form Record where
  encode h := .object [("id", encode h.id), ("name", encode h.name), ("status", encode h.status),
    ("customIdentifier", encode h.customIdentifier)]
  decode? d := do
    let fs ← d.fields? ["id", "name", "status", "customIdentifier"]
    return ⟨← fs.required "id", ← fs.defaulted "name" "", ← fs.defaulted "status" "",
      ← fs.defaulted "customIdentifier" none⟩

instance : Form Interface where
  encode i := .object [("name", encode i.name), ("macAddress", encode i.macAddress),
    ("ipv4Addresses", encode i.ipv4Addresses), ("ipv6Addresses", encode i.ipv6Addresses)]
  decode? d := do
    let fs ← d.fields? ["name", "macAddress", "ipv4Addresses", "ipv6Addresses"]
    return ⟨← fs.required "name", ← fs.optional "macAddress", ← fs.defaulted "ipv4Addresses" [],
      ← fs.defaulted "ipv6Addresses" []⟩

instance : Form Spec where
  encode s := .object [("name", encode s.name), ("meta", s.detail),
    ("interfaces", encode s.interfaces), ("roleFullnames", encode s.roles),
    ("checks", encode s.checks), ("displayName", encode s.displayName),
    ("customIdentifier", encode s.customIdentifier)]
  decode? d := do
    let fs ← d.fields? ["name", "meta", "interfaces", "roleFullnames", "checks", "displayName",
      "customIdentifier"]
    return ⟨← fs.required "name", ← fs.required "meta", ← fs.required "interfaces",
      ← fs.required "roleFullnames", ← fs.required "checks", ← fs.optional "displayName",
      ← fs.optional "customIdentifier"⟩

end HostMonitor.Host
