/-
SQL field types.

A field type is a basic type and a word of flags. The table `types` ties these
pairs to the C++ types that hold them; it is searched in both directions, from a
C++ type by `FieldType.ofCType` and to one by `FieldType.cType`. The C++ types
are named after the library's typedefs, by the width that these ask for. The
SQL names of the table are left out, since nothing here prints them.
-/

import LibTabula.Bytes

set_option autoImplicit false

namespace LibTabula

/-- `FieldType::Base`. -/
inductive Base
  | unsupported | null | integer | real | text | blob
  | date | time | datetime | timestamp | decimal | enum | boolean | set
deriving DecidableEq, Repr

def Base.toNat : Base → Nat
  | .unsupported => 0 | .null => 1 | .integer => 2 | .real => 3 | .text => 4 | .blob => 5
  | .date => 20 | .time => 21 | .datetime => 22 | .timestamp => 23 | .decimal => 24
  | .enum => 25 | .boolean => 26 | .set => 27

def tfDefault : UInt32 := 1
def tfUnsigned : UInt32 := 2
def tfNull : UInt32 := 4

/-- The C++ types of the table: `int64` and `uint64` are `sql_bigint` and its unsigned
counterpart, whatever type that is, and `nullable` is the `Null` template. -/
inductive CType
  | tinyInt | tinyIntUnsigned | int16 | uint16 | int32 | uint32 | int64 | uint64
  | float | double | stdString | string | date | time | dateTime | set | void
  | nullable (type : CType)
deriving DecidableEq, Repr

structure FieldType where
  base : Base
  flags : UInt32
deriving DecidableEq, Repr

/-- An entry of the table, `detail::AnnotatedFT`. -/
structure AnnotatedFT where
  cType : CType
  base : Base
  flags : UInt32 := tfDefault
  bestGuess : Bool := true
deriving DecidableEq, Repr

/-- `types_[]`. -/
def types : List AnnotatedFT :=
  [ ⟨.tinyInt, .integer, tfDefault, false⟩,
    ⟨.tinyIntUnsigned, .integer, tfUnsigned, false⟩,
    ⟨.int16, .integer, tfDefault, false⟩,
    ⟨.uint16, .integer, tfUnsigned, false⟩,
    ⟨.int32, .integer, tfUnsigned, false⟩,
    ⟨.uint32, .integer, tfUnsigned, false⟩,
    ⟨.int32, .integer, tfDefault, true⟩,
    ⟨.uint32, .integer, tfUnsigned, true⟩,
    ⟨.int64, .integer, tfDefault, false⟩,
    ⟨.uint64, .integer, tfUnsigned, false⟩,
    ⟨.float, .real, tfDefault, false⟩,
    ⟨.float, .real, tfUnsigned, false⟩,
    ⟨.double, .real, tfDefault, true⟩,
    ⟨.double, .real, tfUnsigned, true⟩,
    ⟨.double, .decimal, tfDefault, true⟩,
    ⟨.dateTime, .timestamp, tfDefault, true⟩,
    ⟨.date, .date, tfDefault, true⟩,
    ⟨.time, .time, tfDefault, true⟩,
    ⟨.dateTime, .datetime, tfDefault, true⟩,
    ⟨.stdString, .enum, tfDefault, true⟩,
    ⟨.set, .set, tfDefault, true⟩,
    ⟨.string, .blob, tfDefault, false⟩,
    ⟨.string, .blob, tfDefault, false⟩,
    ⟨.string, .blob, tfDefault, false⟩,
    ⟨.string, .blob, tfDefault, true⟩,
    ⟨.stdString, .text, tfDefault, true⟩,
    ⟨.stdString, .text, tfDefault, false⟩,
    ⟨.void, .null, tfDefault, true⟩,
    ⟨.nullable .tinyInt, .integer, tfNull, false⟩,
    ⟨.nullable .tinyIntUnsigned, .integer, tfNull ||| tfUnsigned, false⟩,
    ⟨.nullable .int16, .integer, tfNull, false⟩,
    ⟨.nullable .uint16, .integer, tfNull ||| tfUnsigned, false⟩,
    ⟨.nullable .int32, .integer, tfNull, false⟩,
    ⟨.nullable .uint32, .integer, tfNull ||| tfUnsigned, false⟩,
    ⟨.nullable .int32, .integer, tfNull, true⟩,
    ⟨.nullable .uint32, .integer, tfNull ||| tfUnsigned, true⟩,
    ⟨.nullable .int64, .integer, tfNull, false⟩,
    ⟨.nullable .uint64, .integer, tfNull ||| tfUnsigned, false⟩,
    ⟨.nullable .float, .real, tfNull, false⟩,
    ⟨.nullable .float, .real, tfNull ||| tfUnsigned, false⟩,
    ⟨.nullable .double, .real, tfNull, true⟩,
    ⟨.nullable .double, .real, tfNull ||| tfUnsigned, true⟩,
    ⟨.nullable .double, .decimal, tfNull, true⟩,
    ⟨.nullable .dateTime, .timestamp, tfDefault, true⟩,
    ⟨.nullable .date, .date, tfNull, true⟩,
    ⟨.nullable .time, .time, tfNull, true⟩,
    ⟨.nullable .dateTime, .datetime, tfNull, true⟩,
    ⟨.nullable .stdString, .enum, tfNull, true⟩,
    ⟨.nullable .set, .set, tfNull, true⟩,
    ⟨.nullable .string, .blob, tfNull, false⟩,
    ⟨.nullable .string, .blob, tfNull, false⟩,
    ⟨.nullable .string, .blob, tfNull, false⟩,
    ⟨.nullable .string, .blob, tfNull, true⟩,
    ⟨.nullable .stdString, .text, tfNull, true⟩,
    ⟨.nullable .stdString, .text, tfNull, false⟩,
    ⟨.nullable .void, .null, tfDefault, true⟩ ]

namespace FieldType

/-- The conversion from a `std::type_info`. The map behind it was filled in table
order, so the last entry of a type counts. -/
def ofCType (type : CType) : Option FieldType :=
  (types.reverse.find? (fun entry => entry.cType = type)).map
    fun entry => { base := entry.base, flags := entry.flags }

/-- The search of `annotate()` over the table entries still ahead. -/
def annotateFrom (self : FieldType) (guess : Option AnnotatedFT) :
    List AnnotatedFT → Option AnnotatedFT
  | [] => guess
  | candidate :: rest =>
      if self.base = candidate.base then
        if self.flags = candidate.flags then
          if candidate.bestGuess then some candidate
          else self.annotateFrom (some candidate) rest
        else if candidate.flags &&& self.flags = candidate.flags then
          self.annotateFrom (some candidate) rest
        else self.annotateFrom guess rest
      else self.annotateFrom guess rest

def annotate (self : FieldType) : Except Failure AnnotatedFT :=
  if self.base = .unsupported then
    .error (.typeLookupFailed
      "FieldType::annotate() called before object fully initted")
  else
    match self.annotateFrom none types with
    | some entry => .ok entry
    | none =>
        .error (.typeLookupFailed
          ("Failed to find C++ and SQL type info for libtabula type \x7b" ++
            toString self.base.toNat ++ "," ++ toString self.flags.toNat ++ "\x7d"))

def cType (self : FieldType) : Except Failure CType := do
  let entry ← self.annotate
  pure entry.cType

def quoteQ (self : FieldType) : Bool :=
  self.base = .blob || self.base = .date || self.base = .datetime ||
    self.base = .set || self.base = .text || self.base = .time

def escapeQ (self : FieldType) : Bool :=
  self.base = .blob || self.base = .enum || self.base = .text

end FieldType

end LibTabula
