/-
**C strings as native callers pass them.**

An argument is null or points to octets that a NUL ends. Octets that are no UTF-8 are replaced, so that every
such argument can be read.
-/

import CrashReporter.Text.Basic

namespace CrashReporter

/-- A C string: null, or the octets from its address on, of which those before the first NUL count. -/
structure CText where
  octets? : Option (List UInt8)
  deriving DecidableEq, Repr

namespace CText

/-- The null address. -/
def null : CText := ⟨none⟩

/-- The string that is read; none for null. -/
def read? (argument : CText) : Option String :=
  argument.octets?.map fun octets => String.ofList (Utf8.decodeLossy (Text.cString octets))

/-- The address of a text, null if there is none. -/
def ofText? (text : Option Text) : CText := ⟨text.map Text.stored⟩

end CText

end CrashReporter
