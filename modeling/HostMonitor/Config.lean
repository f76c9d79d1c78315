import HostMonitor.Failure
import HostMonitor.Posting.Mode
import HostMonitor.Posting.Queue
import HostMonitor.Regex.Reader
import HostMonitor.Text.Blank
import HostMonitor.Toml.Reader

namespace HostMonitor

structure CheckConfig : Type where
  command : String
  intervalSeconds : UInt64
  timeoutSeconds : UInt64
  deriving DecidableEq

structure ConnectionConfig : Type where
  bufferSize : Nat := 360
  backlogDelaySeconds : UInt64 := 30
  retryDelaySeconds : UInt64 := 60
  retryLimit : UInt32 := 60
  deriving DecidableEq

/-- Intervals are in seconds. -/
structure Config : Type where
  apiBase : String
  apiKey : String
  root : String
  displayName : Option String
  roles : List String
  verbose : Bool
  metricsInterval : UInt64
  postInterval : UInt64
  specInterval : UInt64
  reportInterval : UInt64
  connection : ConnectionConfig
  onStart : Option String
  onStop : Option String
  ignore : Option String
  checks : List (String × CheckConfig)

inductive ConfigError : Type
  | unreadable
  | invalid (reason : Failure)

namespace Toml

inductive Fields : Type
  | named (entries : List (String × Value))
  | listed (items : List Value)

def Value.fields? : Value → Option Fields
  | .table es => some (.named es)
  | .array xs => some (.listed xs)
  | .datetime => some (.named [])
  | _ => none

namespace Fields

variable {α : Type}

def get? : Fields → Nat → String → Option Value
  | .named es, _, name => es.lookup name
  | .listed xs, i, _ => xs[i]?

def required (fs : Fields) (read : Value → Option α) (i : Nat) (name : String) : Option α :=
  fs.get? i name >>= read

def defaulted (fs : Fields) (read : Value → Option α) (i : Nat) (name : String) (d : α) :
    Option α :=
  match fs.get? i name with
  | some v => read v
  | none => some d

def optional (fs : Fields) (read : Value → Option α) (i : Nat) (name : String) :
    Option (Option α) :=
  match fs.get? i name, fs with
  | some v, _ => (read v).map some
  | none, .named _ => some none
  | none, .listed _ => none

end Fields

def string? : Value → Option String
  | .string s => some s
  | _ => none

def boolean? : Value → Option Bool
  | .boolean b => some b
  | _ => none

def natural? : Value → Option Nat
  | .integer n => if 0 ≤ n then some n.toNat else none
  | _ => none

def word? (v : Value) : Option UInt64 :=
  natural? v >>= fun n => if n < 0x1_0000_0000_0000_0000 then some n.toUInt64 else none

def halfWord? (v : Value) : Option UInt32 :=
  natural? v >>= fun n => if n < 0x1_0000_0000 then some n.toUInt32 else none

def strings? : Value → Option (List String)
  | .array xs => xs.mapM string?
  | _ => none

def check? (v : Value) : Option CheckConfig := do
  let fs ← v.fields?
  return ⟨← fs.required string? 0 "command", ← fs.defaulted word? 1 "check_interval_secs" 60,
    ← fs.defaulted word? 2 "timeout_secs" 30⟩

def namedCheck? (e : String × Value) : Option (String × CheckConfig) := (check? e.2).map (e.1, ·)

def checks? : Value → Option (List (String × CheckConfig))
  | .table es => (es.mapM namedCheck?).map sortEntries
  | _ => none

def connection? (v : Value) : Option ConnectionConfig := do
  let fs ← v.fields?
  return ⟨← fs.defaulted natural? 0 "post_metrics_buffer_size" 360,
    ← fs.defaulted word? 1 "post_metrics_dequeue_delay_seconds" 30,
    ← fs.defaulted word? 2 "post_metrics_retry_delay_seconds" 60,
    ← fs.defaulted halfWord? 3 "post_metrics_retry_max" 60⟩

def hostStatus? (v : Value) : Option (Option String × Option String) := do
  let fs ← v.fields?
  return (← fs.optional string? 0 "on_start", ← fs.optional string? 1 "on_stop")

def filesystems? (v : Value) : Option (Option String) := do
  let fs ← v.fields?
  fs.optional string? 0 "ignore"

def config? (es : List (String × Value)) : Option Config := do
  let fs := Fields.named es
  let (onStart, onStop) ← fs.defaulted hostStatus? 0 "host_status" (none, none)
  return {
    apiBase := ← fs.defaulted string? 0 "apibase" "https://api.mackerelio.com"
    apiKey := ← fs.defaulted string? 0 "apikey" ""
    root := ← fs.defaulted string? 0 "root" "/var/lib/hostpulse"
    displayName := ← fs.optional string? 0 "display_name"
    roles := ← fs.defaulted strings? 0 "roles" []
    verbose := ← fs.defaulted boolean? 0 "verbose" false
    metricsInterval := ← fs.defaulted word? 0 "metrics_interval_secs" 60
    postInterval := ← fs.defaulted word? 0 "post_metrics_interval_secs" 60
    specInterval := ← fs.defaulted word? 0 "host_spec_interval_secs" 3600
    reportInterval := ← fs.defaulted word? 0 "check_report_interval_secs" 60
    connection := ← fs.defaulted connection? 0 "connection" {}
    onStart := onStart
    onStop := onStop
    ignore := ← fs.defaulted filesystems? 0 "filesystems" none
    checks := ← fs.defaulted checks? 0 "checks" [] }

end Toml

namespace Config

def ignoreRegex (c : Config) : Except Failure (Option Regex) :=
  match c.ignore with
  | none => .ok none
  | some s =>
    match Regex.parse? s with
    | some r => .ok (some r)
    | none => .error (.config "filesystems.ignore is not a valid regex")

def positive (key : String) (n : UInt64) : Except Failure Unit :=
  if n = 0 then .error (.config (key ++ " must be greater than 0")) else .ok ()

def validateCheck (name : String) (c : CheckConfig) : Except Failure Unit := do
  if Text.isVoid c.command then
    throw (.config ("checks." ++ name ++ ".command is empty"))
  positive ("checks." ++ name ++ ".check_interval_secs") c.intervalSeconds

def validate (c : Config) : Except Failure Unit := do
  if Text.isVoid c.apiKey then throw (.config "apikey is empty")
  positive "metrics_interval_secs" c.metricsInterval
  positive "post_metrics_interval_secs" c.postInterval
  positive "host_spec_interval_secs" c.specInterval
  positive "check_report_interval_secs" c.reportInterval
  if c.connection.bufferSize = 0 then
    throw (.config "connection.post_metrics_buffer_size must be greater than 0")
  c.checks.forM fun (name, check) => validateCheck name check
  discard c.ignoreRegex

def parse (text : String) : Except ConfigError Config :=
  match Toml.parse? text >>= Toml.config? with
  | none => .error .unreadable
  | some c =>
    match c.validate with
    | .ok () => .ok c
    | .error e => .error (.invalid e)

def idPath (c : Config) : String :=
  if c.root = "" then "id"
  else if c.root.toList.getLast? = some '/' then c.root ++ "id"
  else c.root ++ "/id"

def settings (c : Config) : Posting.Settings where
  backlogDelay := .ofSeconds c.connection.backlogDelaySeconds
  retryDelay := .ofSeconds c.connection.retryDelaySeconds
  retryLimit := c.connection.retryLimit
  interval := .ofSeconds c.postInterval

def queue? (c : Config) : Option Posting.Queue := Posting.Queue.ofCapacity? c.connection.bufferSize

def checkNames (c : Config) : List String := c.checks.map Prod.fst

def ignores (r : Option Regex) (name : String) : Bool := (r.map (·.isMatch name)).getD false

def isIgnored (c : Config) (name : String) : Bool :=
  ignores (c.ignoreRegex.toOption.getD none) name

end Config

end HostMonitor
