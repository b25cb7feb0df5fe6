namespace AddressSpace

def nanosPerSecond : Nat := 1000000000

def nanosPerMilli : Nat := 1000000

structure Duration where
  nanoseconds : Nat
  bounded : nanoseconds < UInt64.size * nanosPerSecond := by decide
  deriving DecidableEq

namespace Duration

def zero : Duration := ⟨0, by decide⟩

instance : Inhabited Duration := ⟨zero⟩

def ofNanoseconds? (n : Nat) : Option Duration :=
  if h : n < UInt64.size * nanosPerSecond then some ⟨n, h⟩ else none

def seconds (d : Duration) : Nat := d.nanoseconds / nanosPerSecond

def subsecond (d : Duration) : Nat := d.nanoseconds % nanosPerSecond

/-- The milliseconds of a span, where a part of one counts as a whole. -/
def milliseconds (d : Duration) : Nat := (d.nanoseconds + (nanosPerMilli - 1)) / nanosPerMilli

theorem seconds_lt (d : Duration) : d.seconds < UInt64.size := by
  have := d.bounded
  simp only [seconds, nanosPerSecond, UInt64.size] at *
  omega

theorem subsecond_lt (d : Duration) : d.subsecond < nanosPerSecond :=
  Nat.mod_lt _ (by decide)

end Duration

end AddressSpace
