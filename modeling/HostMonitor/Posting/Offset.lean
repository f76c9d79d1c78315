import HostMonitor.Digest.Sha1
import HostMonitor.Text.Utf8
import HostMonitor.Time.Span

namespace HostMonitor.Posting

/-- The offset of a host: the last byte of the digest of its id, reduced to the interval. -/
def offset (hostId : String) (interval : Span) : Span :=
  if interval.seconds = 0 then .zero
  else .ofSeconds ((Digest.Sha1.lastByte (Text.bytes hostId)).toUInt64 % interval.seconds)

def modulus (interval : Span) : Int64 := interval.seconds.toInt64

def elapsed (interval : Span) (now : Int) : Nat := (now.emod (modulus interval).toInt).toNat

def untilOffset (offset interval : Span) (now : Int) : Span :=
  if interval.seconds = 0 then .zero
  else .ofSeconds (UInt64.ofNat (offset.seconds.toNat - elapsed interval now))

def overflows (interval : Span) (now : Int64) : Bool :=
  now = Int64.minValue && modulus interval = -1

/-- The time left, where the remainder is computed in 64 bits. -/
def untilOffset? (offset interval : Span) (now : Int64) : Option Span :=
  if overflows interval now then none else some (untilOffset offset interval now.toInt)

def overflowMessage : String := "attempt to calculate the remainder with overflow"

end HostMonitor.Posting
