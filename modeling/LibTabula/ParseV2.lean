/-
The SSQLS v2 language: its parser and the printer that writes a parse back.

A file is read line by line into a buffer of fixed size, each line is broken into
words, and the first word says what the rest is. Included files are parsed where they
stand. Two variables of the parser are static: the directories that files are looked
for in, and whether the last directive at the top level was a table. Warnings on the
error stream are left out.
-/

import LibTabula.Digits
import LibTabula.Foundation.Effect
import LibTabula.Foundation.TextWords

set_option autoImplicit false

namespace LibTabula

open Foundation

namespace ParseV2

/-! ### Parsed lines -/

/-- `Field::Type::Value`. -/
inductive TypeValue
  | tinyint | smallint | mediumint | bigint | float | double | string | blob
  | date | datetime | time | set
deriving DecidableEq, Repr

structure Table where
  name : Bytes
  aliasName : Bytes
  filebase : Bytes
deriving DecidableEq, Repr

structure Field where
  name : Bytes
  type : TypeValue
  isAutoinc : Bool
  isKey : Bool
  isNull : Bool
  isUnsigned : Bool
  aliasName : Bytes
deriving DecidableEq, Repr

/-- `AccessorStyleOption::Type`. An unknown style is an error, so there is none. -/
inductive AccessorStyle
  | camelCaseLower | camelCaseUpper | stroustrup | overloaded
deriving DecidableEq, Repr

/-- The option lines, each with the value that it prints. -/
inductive OptionLine
  | accessorStyle (type : AccessorStyle)
  | exceptionOnSchemaMismatch (throws : Bool)
  | headerExtension (value : Bytes)
  | implementationExtension (value : Bytes)
deriving DecidableEq, Repr

inductive Line
  | table (declared : Table)
  | field (declared : Field)
  | option (chosen : OptionLine)
deriving DecidableEq, Repr

/-! ### Printing -/

def TypeValue.name : TypeValue → Bytes
  | .bigint => ascii "bigint"
  | .blob => ascii "blob"
  | .date => ascii "date"
  | .datetime => ascii "datetime"
  | .double => ascii "double"
  | .float => ascii "float"
  | .mediumint => ascii "mediumint"
  | .set => ascii "set"
  | .smallint => ascii "smallint"
  | .string => ascii "string"
  | .time => ascii "time"
  | .tinyint => ascii "tinyint"

def TypeValue.print (self : TypeValue) : Bytes := ascii "type " ++ self.name

def Table.print (self : Table) : Bytes :=
  ascii "table " ++ self.name ++
    (if self.aliasName ≠ [] then ascii " alias " ++ self.aliasName else []) ++
    (if self.filebase ≠ [] then ascii " filebase " ++ self.filebase else [])

def Field.print (self : Field) : Bytes :=
  ascii "field " ++ self.name ++ ascii " " ++ self.type.print ++
    (if self.isAutoinc then ascii " is autoinc" else []) ++
    (if self.isKey then ascii " is key" else []) ++
    (if self.isNull then ascii " is null" else []) ++
    (if self.isUnsigned then ascii " is unsigned" else []) ++
    (if self.aliasName ≠ [] then ascii " alias " ++ self.aliasName else [])

def AccessorStyle.name : AccessorStyle → Bytes
  | .camelCaseLower => ascii "getX"
  | .camelCaseUpper => ascii "GetX"
  | .overloaded => ascii "x"
  | .stroustrup => ascii "get_x"

def OptionLine.print : OptionLine → Bytes
  | accessorStyle type => ascii "option accessor_style " ++ type.name
  | exceptionOnSchemaMismatch throws =>
      ascii "option exception_on_schema_mismatch " ++
        (if throws then ascii "true" else ascii "false")
  | headerExtension value => ascii "option header_extension " ++ value
  | implementationExtension value => ascii "option implementation_extension " ++ value

def Line.print : Line → Bytes
  | table declared => declared.print
  | field declared => declared.print
  | option chosen => chosen.print

def Line.isField : Line → Bool
  | field _ => true
  | _ => false

/-- A line of the output, which for a field is indented. -/
def Line.written (self : Line) : Bytes :=
  (if self.isField then [byte '\t'] else []) ++ self.print

def generateSsqls2 (lines : List Line) : Bytes := unlines (byte '\n') (lines.map Line.written)

/-! ### Errors and files -/

/-- The exceptions of the parser, and includes that are nested too deep. -/
inductive Exception
  | file (what : Bytes)
  | parse (what fileName : Bytes) (line : Nat)
  | stackOverflow
deriving DecidableEq, Repr

/-- What opening a path gives: the text of the file, or the system's error message. -/
abbrev FileSystem := Bytes → Except Bytes Bytes

structure Statics where
  searchPath : List Bytes
  lastTldWasTable : Bool
deriving DecidableEq, Repr

/-- A new process. -/
def Statics.initial : Statics := { searchPath := [], lastTldWasTable := false }

structure File where
  fileName : Bytes
  lineNumber : Nat

namespace File

variable {α : Type}

def parseError (self : File) (msg : Bytes) : Except Exception α :=
  .error (.parse msg self.fileName self.lineNumber)

/-- `parse_error` with a stream, which calls `error` and so loses file and line. -/
def parseErrorStream (_self : File) (msg : Bytes) : Except Exception α := .error (.file msg)

end File

/-- The size of the buffer in `read_line`. -/
def bufferSize : Nat := 100

/-- `read_line`, on what the stream has up to the next newline. A line that does not
fit into the buffer with its terminator puts the stream into an error condition. -/
def readLine (temp : Bytes) : Option (Bytes × Bool) :=
  if temp.length < bufferSize then
    -- The buffer is read as a C string, and a comment is cut off.
    let line := (temp.takeWhile (· ≠ 0)).takeWhile (· ≠ byte '#')
    some (line, line.head?.any isspace)
  else none

def tokenize (line : Bytes) : List Bytes := words isspace line

def pathSeparator : UInt8 := byte '/'

def splitPath (path : Bytes) : List Bytes :=
  match path with
  | [] => []
  | _ => path.takeWhile (· ≠ pathSeparator) ::
      words (fun c => c = pathSeparator) (path.dropWhile (· ≠ pathSeparator))

def addDirectoryToSearchPath (filepath : Bytes) (self : Statics) : Statics :=
  let parts := splitPath filepath
  if 1 < parts.length ∧ (parts.length ≠ 2 ∨ parts.head? ≠ some (ascii ".")) then
    let path := [pathSeparator].intercalate parts.dropLast
    if path ∈ self.searchPath then self
    else { self with searchPath := self.searchPath ++ [path] }
  else self

/-- The loop of the constructor of `File`. -/
def openFirst (fs : FileSystem) : List Bytes → Except Bytes Bytes
  | [] => .error []
  | [path] => fs path
  | path :: rest =>
      match fs path with
      | .ok text => .ok text
      | .error _ => openFirst fs rest

/-- The constructor of `File`: the text of the file. -/
def openFile (fs : FileSystem) (fileName : Bytes) : EStateM Exception Statics Bytes := do
  let self ← get
  match openFirst fs
      (fileName :: self.searchPath.map fun path => path ++ pathSeparator :: fileName) with
  | .ok text =>
      set (addDirectoryToSearchPath fileName self)
      return text
  | .error reason =>
      throw (.file (ascii "Failed to open '" ++ fileName ++ ascii "' for reading: " ++ reason))

/-! ### Directives -/

def contains (s word : Bytes) : Bool := s.tails.any word.isPrefixOf

/-- `Field::Type::Type(const std::string&)`. -/
def TypeValue.ofText (s : Bytes) : TypeValue :=
  let ls := strToLwr s
  if contains ls (ascii "blob") || contains ls (ascii "varbinary") then .blob
  else if (ascii "bool").isPrefixOf ls then .tinyint
  else if (ascii "date").isPrefixOf ls then
    if ls = ascii "datetime" then .datetime else .date
  else if contains ls (ascii "decimal") || contains ls (ascii "double") ||
      contains ls (ascii "fixed") || contains ls (ascii "numeric") then .double
  else if contains ls (ascii "float") then .float
  else if contains ls (ascii "int") then
    if (ascii "tiny").isPrefixOf ls then .tinyint
    else if ls = ascii "int1" then .tinyint
    else if (ascii "small").isPrefixOf ls then .smallint
    else if ls = ascii "int2" then .smallint
    else if (ascii "big").isPrefixOf ls then .bigint
    else if ls = ascii "int8" then .bigint
    else .mediumint
  else if contains ls (ascii "set") then .set
  else if (ascii "time").isPrefixOf ls then
    if ls = ascii "timestamp" then .datetime else .time
  else .string

/-- The constructor, with the defaults for what is empty. -/
def Table.new (name aliasName filebase : Bytes) : Table :=
  { name := name
    aliasName := if aliasName = [] then name else aliasName
    filebase := if filebase = [] then name else filebase }

/-- The loop over the attributes of a directive, each a name and a value. A last word
without a value is ignored. -/
def readAttributes {σ : Type} (setAttribute : Bytes → Bytes → σ → Except Exception σ) :
    List Bytes → σ → Except Exception σ
  | attr :: value :: rest, read => do
      let next ← setAttribute (strToLwr attr) value read
      readAttributes setAttribute rest next
  | _, read => .ok read

/-- An attribute of a table is its alias or its filebase. -/
def Table.setAttribute (name : Bytes) (file : File) (attr value : Bytes) :
    Bytes × Bytes → Except Exception (Bytes × Bytes)
  | (aliasName, filebase) =>
      if attr = ascii "alias" then .ok (value, filebase)
      else if attr = ascii "filebase" then .ok (aliasName, value)
      else file.parseErrorStream
        (ascii "bad attribute '" ++ attr ++ ascii "' for table " ++ name)

def Table.parse (tl : List Bytes) (subdirective : Bool) (file : File) : Except Exception Table :=
  match tl with
  | _ :: name :: rest =>
      if subdirective then file.parseError (ascii "'table' cannot be a subdirective")
      else do
        let (aliasName, filebase) ←
          readAttributes (Table.setAttribute name file) rest ([], [])
        return Table.new name aliasName filebase
  | _ => file.parseError (ascii "'table' directive requires at least one argument")

/-- What the attributes of a field set. -/
structure FieldAttributes where
  type : Bytes
  aliasName : Bytes
  isAutoinc : Bool
  isKey : Bool
  isNull : Bool
  isUnsigned : Bool
deriving DecidableEq, Repr

def FieldAttributes.none : FieldAttributes :=
  { type := [], aliasName := [], isAutoinc := false, isKey := false, isNull := false
    isUnsigned := false }

def Field.setAttribute (name : Bytes) (file : File) (attr value : Bytes) (read : FieldAttributes) :
    Except Exception FieldAttributes :=
  if attr = ascii "alias" then .ok { read with aliasName := value }
  else if attr = ascii "is" then
    if value = ascii "autoinc" then .ok { read with isAutoinc := true }
    else if value = ascii "key" then .ok { read with isKey := true }
    else if value = ascii "null" then .ok { read with isNull := true }
    else if value = ascii "unsigned" then .ok { read with isUnsigned := true }
    else file.parseErrorStream
      (ascii "unknown is-attribute '" ++ value ++ ascii "' for field '" ++ name ++ ascii "'")
  else if attr = ascii "type" then .ok { read with type := value }
  else file.parseErrorStream (ascii "bad attribute '" ++ attr ++ ascii "' for field " ++ name)

def Field.parse (tl : List Bytes) (subdirective : Bool) (file : File) : Except Exception Field :=
  match tl with
  | _ :: name :: rest =>
      if !subdirective then file.parseError (ascii "'field' must be a subdirective")
      else do
        let read ← readAttributes (Field.setAttribute name file) rest .none
        return {
          name := name
          type := .ofText read.type
          isAutoinc := read.isAutoinc
          isKey := read.isKey
          isNull := read.isNull
          isUnsigned := read.isUnsigned
          aliasName := read.aliasName }
  | _ => file.parseError (ascii "'field' directive requires at least one argument")

def AccessorStyle.parseType (style : Bytes) (file : File) : Except Exception AccessorStyle :=
  if style = ascii "getX" then .ok .camelCaseLower
  else if style = ascii "GetX" then .ok .camelCaseUpper
  else if style = ascii "get_x" then .ok .stroustrup
  else if style = ascii "x" then .ok .overloaded
  else file.parseErrorStream (ascii "unknown accessor style '" ++ style ++ ascii "'")

def parseBool (value : Bytes) : Bool :=
  let b := strToLwr value
  !(b = ascii "0" || b = ascii "false" || b = ascii "no" || b = ascii "off")

def OptionLine.parse (tl : List Bytes) (subdirective : Bool) (file : File) :
    Except Exception OptionLine :=
  match tl with
  | [_, name, value] =>
      if subdirective then file.parseError (ascii "'option' cannot be a subdirective")
      else if name = ascii "accessor_style" then do
        let type ← AccessorStyle.parseType value file
        return accessorStyle type
      else if name = ascii "exception_on_schema_mismatch" then
        .ok (exceptionOnSchemaMismatch (parseBool value))
      else if name = ascii "header_extension" then .ok (headerExtension value)
      else if name = ascii "implementation_extension" then .ok (implementationExtension value)
      else file.parseErrorStream (ascii "unknown option '" ++ name ++ ascii "'")
  | _ => file.parseError (ascii "'option' directive requires two arguments")

/-- `Include::parse`, up to the constructor, which parses the file of that name. -/
def includeParse (tl : List Bytes) (subdirective : Bool) (file : File) : Except Exception Bytes :=
  match tl with
  | [_, fileName] =>
      if subdirective then file.parseError (ascii "'include' cannot be a subdirective")
      else .ok fileName
  | _ => file.parseError (ascii "'include' directive requires one argument")

/-! ### Files -/

/-- A directive at the top level is noted as the last one. -/
def noteDirective (isTable subdirective : Bool) (self : Statics) : Statics :=
  if subdirective then self else { self with lastTldWasTable := isTable }

/-- `Line::parse`, and what the caller makes of its result: one line, or those of the
included file. -/
def Line.parse (includeFile : Bytes → EStateM Exception Statics (List Line)) (tl : List Bytes)
    (subdirective : Bool) (file : File) : EStateM Exception Statics (List Line) := do
  let directive := strToLwr (tl.headD [])
  modify (noteDirective (directive = ascii "table") subdirective)
  if directive = ascii "table" then
    let parsed ← ofExcept (Table.parse tl subdirective file)
    return [table parsed]
  else if directive = ascii "field" then
    let self ← get
    if self.lastTldWasTable then
      let parsed ← ofExcept (Field.parse tl subdirective file)
      return [field parsed]
    else ofExcept (file.parseError (ascii "'field' directive must follow 'table'"))
  else if directive = ascii "include" then
    let fileName ← ofExcept (includeParse tl subdirective file)
    includeFile fileName
  else if directive = ascii "option" then
    let parsed ← ofExcept (OptionLine.parse tl subdirective file)
    return [option parsed]
  else ofExcept (file.parseErrorStream
    (ascii "unrecognized directive '" ++ directive ++ ascii "'"))

/-- The loop of the constructor of `ParseV2`, with what the stream still has. -/
def parseLines (includeFile : Bytes → EStateM Exception Statics (List Line)) (fileName : Bytes) :
    List Bytes → Nat → EStateM Exception Statics (List Line)
  | [], _ => return []
  | temp :: ahead, lineNumber =>
      match readLine temp with
      | none => return []
      | some (line, subdirective) =>
          if tokenize line = [] then parseLines includeFile fileName ahead (lineNumber + 1)
          else do
            let parsed ← Line.parse includeFile (tokenize line) subdirective
              { fileName := fileName, lineNumber := lineNumber + 1 }
            let rest ← parseLines includeFile fileName ahead (lineNumber + 1)
            return parsed ++ rest

/-- The constructor of `ParseV2`, with includes nested up to a given depth. -/
def parse (fs : FileSystem) : Nat → Bytes → EStateM Exception Statics (List Line)
  | 0, _ => throw .stackOverflow
  | depth + 1, fileName => do
      let text ← openFile fs fileName
      parseLines (parse fs depth) fileName (textLines (byte '\n') text) 1

end ParseV2

end LibTabula
