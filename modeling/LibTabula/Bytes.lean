/-
Byte strings, and what a modelled function throws.

A `std::string` and a buffer with a length are lists of bytes. The texts of the
source are ASCII, so a byte is the code of its character.
-/

set_option autoImplicit false

namespace LibTabula

abbrev Bytes := List UInt8

/-- The bytes of an ASCII literal of the source. -/
def ascii (text : String) : Bytes := text.toList.map fun c => UInt8.ofNat c.toNat

/-- The code of a character literal of the source. -/
def byte (c : Char) : UInt8 := UInt8.ofNat c.toNat

/-- `internal::str_to_lwr`, in the C locale. -/
def strToLwr (s : Bytes) : Bytes :=
  s.map fun c => if byte 'A' ≤ c && c ≤ byte 'Z' then c + 32 else c

/-- What ends a call early: an exception of the library with its text, or, in the
last three, the use of a null pointer, of an index outside a vector or of more
stack than is modelled, which are no exceptions and after which nothing is
defined. -/
inductive Failure
  | badParamCount (what : String)
  | typeLookupFailed (what : String)
  | badQuery (what : Bytes) (errnum : Int)
  | badInsertPolicy (what : String)
  | useQueryError (what : String)
  | objectNotInitialized (what : String)
  | nullPointer
  | outOfBounds
  | stackOverflow
deriving DecidableEq, Repr

end LibTabula
