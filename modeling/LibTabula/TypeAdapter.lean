/-
SQL buffers and the adapters that carry them.

An adapter shares its buffer with its copies and never writes into it: every
assignment puts another buffer in its place. A buffer is therefore a value. A
null data pointer has length 0 and is read like an empty buffer.
-/

import LibTabula.FieldType

set_option autoImplicit false

namespace LibTabula

structure SQLBuffer where
  data : Bytes
  type : FieldType
  isNull : Bool
deriving DecidableEq, Repr

namespace SQLBuffer

def stringType : FieldType := { base := .text, flags := tfNull }

def escapeQ (self : SQLBuffer) : Bool := self.type.escapeQ

/-- `quote_q()`. The text of the default DATETIME is a call of NOW(), which must
not be quoted; nor is a null. The type lookup of the first test can throw. -/
def quoteQ (self : SQLBuffer) : Except Failure Bool := do
  let cType ← self.type.cType
  if cType = .dateTime && 5 ≤ self.data.length && self.data.take 5 = ascii "NOW()" then
    pure false
  else if self.isNull then pure false
  else pure self.type.quoteQ

end SQLBuffer

def nullStr : Bytes := ascii "NULL"

structure SQLTypeAdapter where
  buffer : Option SQLBuffer
  isProcessed : Bool
deriving DecidableEq, Repr

namespace SQLTypeAdapter

/-- The default constructor, which leaves the adapter without a buffer. -/
def default : SQLTypeAdapter := { buffer := none, isProcessed := false }

/-- The constructor from a C++ string, and from a C string or a block of data. -/
def ofString (text : Bytes) (processed : Bool) : SQLTypeAdapter :=
  { buffer := some { data := text, type := SQLBuffer.stringType, isNull := false }
    isProcessed := processed }

/-- A constructor from a number or a date: the text `stream2string` makes of the
value, with the field type of its C++ type. -/
def ofValue (text : Bytes) (type : CType) : Except Failure SQLTypeAdapter :=
  match FieldType.ofCType type with
  | some fieldType =>
      .ok
        { buffer := some { data := text, type := fieldType, isNull := false }
          isProcessed := false }
  -- The message goes on with the compiler's name for the type.
  | none => .error (.typeLookupFailed "Failed to find libtabula type info for ")

def ofNull : SQLTypeAdapter :=
  { buffer := some
      { data := nullStr, type := { base := .null, flags := tfDefault }, isNull := true }
    isProcessed := false }

/-- The copy constructor and `assign(const SQLTypeAdapter&)`: the buffer is shared
and the processed flag is not. -/
def copy (other : SQLTypeAdapter) : SQLTypeAdapter := { other with isProcessed := false }

def setProcessed (self : SQLTypeAdapter) : SQLTypeAdapter := { self with isProcessed := true }

def data (self : SQLTypeAdapter) : Bytes :=
  match self.buffer with
  | some buffer => buffer.data
  | none => []

def length (self : SQLTypeAdapter) : Nat := self.data.length

/-- `is_null()`, which looks into the buffer without asking for one. -/
def isNull (self : SQLTypeAdapter) : Except Failure Bool :=
  match self.buffer with
  | some buffer => .ok buffer.isNull
  | none => .error .nullPointer

def escapeQ (self : SQLTypeAdapter) : Bool :=
  match self.buffer with
  | some buffer => buffer.escapeQ
  | none => false

def quoteQ (self : SQLTypeAdapter) : Except Failure Bool :=
  match self.buffer with
  | some buffer => buffer.quoteQ
  | none => .ok true

@[simp] theorem copy_buffer (other : SQLTypeAdapter) : other.copy.buffer = other.buffer := rfl

@[simp] theorem copy_isProcessed (other : SQLTypeAdapter) : other.copy.isProcessed = false := rfl

@[simp] theorem copy_data (other : SQLTypeAdapter) : other.copy.data = other.data := rfl

@[simp] theorem copy_isNull (other : SQLTypeAdapter) : other.copy.isNull = other.isNull := rfl

@[simp] theorem copy_quoteQ (other : SQLTypeAdapter) : other.copy.quoteQ = other.quoteQ := rfl

@[simp] theorem copy_escapeQ (other : SQLTypeAdapter) : other.copy.escapeQ = other.escapeQ := rfl

@[simp] theorem setProcessed_data (self : SQLTypeAdapter) :
    self.setProcessed.data = self.data := rfl

@[simp] theorem setProcessed_buffer (self : SQLTypeAdapter) :
    self.setProcessed.buffer = self.buffer := rfl

@[simp] theorem setProcessed_isProcessed (self : SQLTypeAdapter) :
    self.setProcessed.isProcessed = true := rfl

@[simp] theorem ofString_data (text : Bytes) (processed : Bool) :
    (ofString text processed).data = text := rfl

@[simp] theorem ofString_isNull (text : Bytes) (processed : Bool) :
    (ofString text processed).isNull = .ok false := rfl

@[simp] theorem ofString_isProcessed (text : Bytes) (processed : Bool) :
    (ofString text processed).isProcessed = processed := rfl

@[simp] theorem ofString_escapeQ (text : Bytes) (processed : Bool) :
    (ofString text processed).escapeQ = true := rfl

section NoBuffer

variable {self : SQLTypeAdapter} (noBuffer : self.buffer = none)
include noBuffer

theorem isNull_of_noBuffer : self.isNull = .error .nullPointer := by
  rw [isNull, noBuffer]

theorem quoteQ_of_noBuffer : self.quoteQ = .ok true := by
  rw [quoteQ, noBuffer]

end NoBuffer

theorem stringType_cType :
    SQLBuffer.stringType.cType = .ok (.nullable .stdString) :=
  rfl

@[simp] theorem ofString_quoteQ (text : Bytes) (processed : Bool) :
    (ofString text processed).quoteQ = .ok true := by
  simp only [quoteQ, ofString, SQLBuffer.quoteQ, stringType_cType]
  rfl

end SQLTypeAdapter

end LibTabula
