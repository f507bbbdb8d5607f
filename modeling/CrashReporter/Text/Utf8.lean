/-
**UTF-8 octets and the characters they spell.**

Bytes handed over by a native host need not be well formed. One pass (`scan`) splits them into
characters and maximal ill-formed pieces; everything else reads its result:

* `decodeLossy` writes one replacement character for every ill-formed piece;
* `decode?` refuses bytes that hold any;
* `encode` is the way back.
-/

namespace CrashReporter.Utf8

/-- The octets of a sequence of characters. -/
def encode (characters : List Char) : List UInt8 :=
  characters.flatMap String.utf8EncodeChar

/-- What has been read of the character under way. -/
inductive Progress where
  /-- Between two characters. -/
  | start
  /-- `owed` octets are missing, the next of them between `lowest` and `highest`; `value` is what
  the octets read so far contribute to the code point. -/
  | within (owed : Nat) (lowest highest : UInt8) (value : Nat)
  deriving DecidableEq, Repr

/-- Reads an octet between two characters. The bounds on the second octet leave out overlong
forms, surrogates and code points above `10FFFF`. -/
def enter (octet : UInt8) : List (Option Char) × Progress :=
  if octet < 0x80 then ([some (Char.ofNat octet.toNat)], .start)
  else if octet < 0xC2 then ([none], .start)
  else if octet < 0xE0 then ([], .within 1 0x80 0xBF (octet.toNat - 0xC0))
  else if octet = 0xE0 then ([], .within 2 0xA0 0xBF 0)
  else if octet = 0xED then ([], .within 2 0x80 0x9F 0xD)
  else if octet < 0xF0 then ([], .within 2 0x80 0xBF (octet.toNat - 0xE0))
  else if octet = 0xF0 then ([], .within 3 0x90 0xBF 0)
  else if octet < 0xF4 then ([], .within 3 0x80 0xBF (octet.toNat - 0xF0))
  else if octet = 0xF4 then ([], .within 3 0x80 0x8F 4)
  else ([none], .start)

/-- Reads one octet. An octet that cannot continue the character under way ends an ill-formed
piece and is itself read afresh. -/
def advance (progress : Progress) (octet : UInt8) : List (Option Char) × Progress :=
  match progress with
  | .start => enter octet
  | .within owed lowest highest value =>
    if lowest ≤ octet ∧ octet ≤ highest then
      let value := value * 64 + (octet.toNat - 0x80)
      if owed ≤ 1 then ([some (Char.ofNat value)], .start)
      else ([], .within (owed - 1) 0x80 0xBF value)
    else
      let (pieces, progress) := enter octet
      (none :: pieces, progress)

/-- A character cut off by the end of the input is an ill-formed piece. -/
def Progress.finish : Progress → List (Option Char)
  | .start => []
  | .within .. => [none]

/-- The characters and ill-formed pieces (`none`) of the remaining octets. -/
def scanFrom (progress : Progress) : List UInt8 → List (Option Char)
  | [] => progress.finish
  | octet :: rest =>
    let (pieces, progress) := advance progress octet
    pieces ++ scanFrom progress rest

/-- The characters and maximal ill-formed pieces (`none`) of a sequence of octets. -/
def scan (octets : List UInt8) : List (Option Char) :=
  scanFrom .start octets

/-- The character that stands for an ill-formed piece. -/
def replacement : Char := Char.ofNat 0xFFFD

/-- Reads octets, with one replacement character for every ill-formed piece. -/
def decodeLossy (octets : List UInt8) : List Char :=
  (scan octets).map (·.getD replacement)

/-- Reads well-formed octets only. -/
def decode? (octets : List UInt8) : Option (List Char) :=
  (scan octets).mapM id

end CrashReporter.Utf8
