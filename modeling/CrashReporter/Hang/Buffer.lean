/-
**Liveness buffers.**

The host keeps its liveness token in a word of its own memory and tells the agent the address, which
has to be that of a word.
-/

namespace CrashReporter.Hang

/-- The words of the host's memory by their addresses. -/
abbrev Memory := UInt64 → UInt64

/-- The address of a liveness token. -/
structure Buffer where
  address : UInt64
  /-- The null address points nowhere. -/
  address_ne_zero : address ≠ 0
  /-- Words stand at multiples of eight. -/
  aligned : address % 8 = 0
  deriving DecidableEq, Repr

namespace Buffer

/-- The buffer at an address, unless that is null or not the address of a word. -/
def of? (address : UInt64) : Option Buffer :=
  if nonzero : address ≠ 0 then
    if aligned : address % 8 = 0 then some ⟨address, nonzero, aligned⟩ else none
  else none

/-- The token in a buffer. -/
def load (buffer : Buffer) (memory : Memory) : UInt64 :=
  memory buffer.address

end Buffer

end CrashReporter.Hang
