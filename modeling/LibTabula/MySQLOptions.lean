/-
The options of the MySQL driver.

Each class of options has its setter. Most of them refuse while the driver is connected; what
they ask of the client library, and from which version on, is all that differs. One of them,
of some versions, waits for the connection. The library may answer each call as it likes, by
all that it has been asked before. The flags that `connect()` asks for are kept in its handle.
-/

import LibTabula.Bytes
import LibTabula.ClientFlags
import LibTabula.DriverOptions
import LibTabula.Foundation.LastWrite
import LibTabula.OptionCalls

set_option autoImplicit false

namespace LibTabula

open Foundation

/-! ### The client library -/

/-- What the driver is compiled with. -/
structure Build where
  mysqlVersionId : Nat
  haveMysqlSslSet : Bool
deriving DecidableEq, Repr

/-- `mysql_option`, as far as it is used. -/
inductive MysqlOption
  | optCompress | optConnectTimeout | optGuessConnection | initCommand | optLocalInfile
  | optNamedPipe | optProtocol | readDefaultFile | readDefaultGroup | optReadTimeout
  | optReconnect | reportDataTruncation | secureAuth | setCharsetDir | setCharsetName
  | setClientIp | sharedMemoryBaseName | optUseEmbeddedConnection | optUseRemoteConnection
  | optWriteTimeout
deriving DecidableEq, Repr

/-- What the argument pointer points to. -/
inductive OptionArg
  | null
  | number (arg : UInt32)
  | flag (arg : Bool)
  | text (arg : Bytes)
deriving DecidableEq, Repr

inductive LibraryCall (extra : Nat)
  | mysqlOptions (option : MysqlOption) (arg : OptionArg)
  | mysqlSetServerOption (multiStatements : Bool)
  | mysqlSslSet (key cert ca capath cipher : Bytes)
  | mysqlRealConnect (clientFlag : BitVec (32 + extra))
  | mysqlClose
deriving DecidableEq, Repr

/-- Whether the last of some calls succeeds, and what it makes of `client_flag`. -/
structure Library (extra : Nat) where
  succeeds : List (LibraryCall extra) → Bool
  clientFlag : List (LibraryCall extra) → BitVec (32 + extra) → BitVec (32 + extra)

/-- What is an option of the library is no flag of the handle. -/
structure Library.KeepsFlags {extra : Nat} (library : Library extra) : Prop where
  options : ∀ calls option arg clientFlag,
    library.clientFlag (calls ++ [.mysqlOptions option arg]) clientFlag = clientFlag
  ssl : ∀ calls key cert ca capath cipher clientFlag,
    library.clientFlag (calls ++ [.mysqlSslSet key cert ca capath cipher]) clientFlag = clientFlag

/-- The handle, with what has been asked for it. -/
structure Mysql (extra : Nat) where
  clientFlag : BitVec (32 + extra)
  calls : List (LibraryCall extra)
deriving DecidableEq, Repr

namespace Mysql

variable {extra : Nat} (library : Library extra)

def initial : Mysql extra := { clientFlag := 0, calls := [] }

def ask (call : LibraryCall extra) (self : Mysql extra) : Bool × Mysql extra :=
  let calls := self.calls ++ [call]
  (library.succeeds calls,
    { clientFlag := library.clientFlag calls self.clientFlag, calls := calls })

/-- `connect()` asks for the flags that are in the handle. -/
def realConnect (self : Mysql extra) : Bool × Mysql extra :=
  self.ask library (.mysqlRealConnect self.clientFlag)

/-- The handle is filled with zeros afterwards. -/
def close (self : Mysql extra) : Mysql extra :=
  { clientFlag := 0, calls := self.calls ++ [.mysqlClose] }

def server : MySQLServer (Mysql extra) := { realConnect := realConnect library, close := close }

end Mysql

def clientNoSchema : BitVec 32 := 16

def clientLocalFiles : BitVec 32 := 128

def clientIgnoreSpace : BitVec 32 := 256

def clientInteractive : BitVec 32 := 1024

def clientMultiStatements : BitVec 32 := 1 <<< 16

/-! ### The classes of options -/

inductive MySQLOption
  | compress
  | connectTimeout (arg : UInt32)
  | foundRows (arg : Bool)
  | guessConnection
  | ignoreSpace (arg : Bool)
  | initCommand (arg : Bytes)
  | interactive (arg : Bool)
  | localFiles (arg : Bool)
  | localInfile (arg : UInt32)
  | multiResults (arg : Bool)
  | multiStatements (arg : Bool)
  | namedPipe
  | noSchema (arg : Bool)
  | protocol (arg : UInt32)
  | readDefaultFile (arg : Bytes)
  | readDefaultGroup (arg : Bytes)
  | readTimeout (arg : UInt32)
  | reconnect (arg : Bool)
  | reportDataTruncation (arg : Bool)
  | secureAuth (arg : Bool)
  | setCharsetDir (arg : Bytes)
  | setCharsetName (arg : Bytes)
  | setClientIp (arg : Bytes)
  | sharedMemoryBaseName (arg : Bytes)
  | ssl (key cert ca capath cipher : Bytes)
  | useEmbeddedConnection
  | useRemoteConnection
  | writeTimeout (arg : UInt32)
deriving DecidableEq, Repr

/-! ### The setters -/

/-- A setter, by `connected()`. -/
abbrev SetOptionImpl (extra : Nat) := Bool → Mysql extra → OptionError × Mysql extra

section Setters

variable {extra : Nat} (build : Build) (library : Library extra)

def answered (result : Bool × Mysql extra) : OptionError × Mysql extra :=
  (if result.1 then .none else .apiReject, result.2)

/-- `set_option_internal()` of an option of the library. -/
def setLibraryOption (option : MysqlOption) (arg : OptionArg) : Mysql extra → Bool × Mysql extra :=
  Mysql.ask library (.mysqlOptions option arg)

/-- `set_option_internal()` of a flag. -/
def setClientFlag (flag : BitVec 32) (arg : Bool) (self : Mysql extra) : Bool × Mysql extra :=
  let result := MySQLDriver.setOptionInternal self.clientFlag flag arg
  (result.1, { self with clientFlag := result.2 })

/-- Most options have to be set before the connection is made. -/
def whileDisconnected (set : Mysql extra → Bool × Mysql extra) : SetOptionImpl extra :=
  fun connected self => if connected then (.connected, self) else answered (set self)

/-- What is compiled from a version on. -/
def since (version : Nat) (impl : SetOptionImpl extra) : SetOptionImpl extra :=
  fun connected self =>
    if version ≤ build.mysqlVersionId then impl connected self else (.apiLimit, self)

/-- `set_multi_statements_option()`. -/
def setMultiStatementsOption (enable : Bool) (self : Mysql extra) : OptionError × Mysql extra :=
  if 40101 ≤ build.mysqlVersionId then
    answered (self.ask library (.mysqlSetServerOption enable))
  else (.apiLimit, self)

/-- While connected the server is asked, and its answer does not matter. -/
def multiOption (flag : BitVec 32) (arg : Bool) : SetOptionImpl extra :=
  since build 40101 fun connected self =>
    if connected then (.none, (setMultiStatementsOption build library arg self).2)
    else answered (setClientFlag flag arg self)

def setReconnect (arg : Bool) : SetOptionImpl extra := fun connected self =>
  if 50106 ≤ build.mysqlVersionId then
    answered (setLibraryOption library .optReconnect (.flag arg) self)
  else if 50013 ≤ build.mysqlVersionId then
    if connected then answered (setLibraryOption library .optReconnect (.flag arg) self)
    else (.disconnected, self)
  else (.apiLimit, self)

def setSsl (key cert ca capath cipher : Bytes) : SetOptionImpl extra := fun connected self =>
  if build.haveMysqlSslSet then
    whileDisconnected (Mysql.ask library (.mysqlSslSet key cert ca capath cipher)) connected self
  else (.apiLimit, self)

/-- `set_option_impl`. -/
def setOptionImpl : MySQLOption → SetOptionImpl extra
  | .compress => whileDisconnected (setLibraryOption library .optCompress .null)
  | .connectTimeout arg =>
      whileDisconnected (setLibraryOption library .optConnectTimeout (.number arg))
  | .foundRows arg => whileDisconnected (setClientFlag clientFoundRows arg)
  | .guessConnection =>
      since build 40101 (whileDisconnected (setLibraryOption library .optGuessConnection .null))
  | .ignoreSpace arg => whileDisconnected (setClientFlag clientIgnoreSpace arg)
  | .initCommand arg => whileDisconnected (setLibraryOption library .initCommand (.text arg))
  | .interactive arg => whileDisconnected (setClientFlag clientInteractive arg)
  | .localFiles arg => whileDisconnected (setClientFlag clientLocalFiles arg)
  | .localInfile arg =>
      whileDisconnected (setLibraryOption library .optLocalInfile (.number arg))
  | .multiResults arg => multiOption build library clientMultiResults arg
  | .multiStatements arg => multiOption build library clientMultiStatements arg
  | .namedPipe => whileDisconnected (setLibraryOption library .optNamedPipe .null)
  | .noSchema arg => whileDisconnected (setClientFlag clientNoSchema arg)
  | .protocol arg =>
      since build 40001 (whileDisconnected (setLibraryOption library .optProtocol (.number arg)))
  | .readDefaultFile arg =>
      whileDisconnected (setLibraryOption library .readDefaultFile (.text arg))
  | .readDefaultGroup arg =>
      whileDisconnected (setLibraryOption library .readDefaultGroup (.text arg))
  | .readTimeout arg =>
      since build 40101
        (whileDisconnected (setLibraryOption library .optReadTimeout (.number arg)))
  | .reconnect arg => setReconnect build library arg
  | .reportDataTruncation arg =>
      since build 50003
        (whileDisconnected (setLibraryOption library .reportDataTruncation (.flag arg)))
  | .secureAuth arg =>
      since build 40101 (whileDisconnected (setLibraryOption library .secureAuth (.flag arg)))
  | .setCharsetDir arg =>
      whileDisconnected (setLibraryOption library .setCharsetDir (.text arg))
  | .setCharsetName arg =>
      whileDisconnected (setLibraryOption library .setCharsetName (.text arg))
  | .setClientIp arg =>
      since build 40101 (whileDisconnected (setLibraryOption library .setClientIp (.text arg)))
  | .sharedMemoryBaseName arg =>
      since build 40100
        (whileDisconnected (setLibraryOption library .sharedMemoryBaseName (.text arg)))
  | .ssl key cert ca capath cipher => setSsl build library key cert ca capath cipher
  | .useEmbeddedConnection =>
      since build 40101
        (whileDisconnected (setLibraryOption library .optUseEmbeddedConnection .null))
  | .useRemoteConnection =>
      since build 40101
        (whileDisconnected (setLibraryOption library .optUseRemoteConnection .null))
  | .writeTimeout arg =>
      since build 40101
        (whileDisconnected (setLibraryOption library .optWriteTimeout (.number arg)))

/-- The setters of a driver, by the option behind each pointer. None of them throws. -/
def mysqlSetters (objects : OptionPtr → MySQLOption) : Setters (Mysql extra) :=
  fun o connected self =>
    let result := setOptionImpl build library (objects o) connected self
    (some result.1, result.2)

end Setters

/-! ### Which options wait -/

namespace MySQLOption

/-- From 5.0.13 on the option was there, and before 5.1.6 it was lost when the connection
came up. -/
def Waits (build : Build) : MySQLOption → Prop
  | .reconnect _ => 50013 ≤ build.mysqlVersionId ∧ build.mysqlVersionId < 50106
  | _ => False

instance (build : Build) : DecidablePred (Waits build) := by
  intro option
  cases option <;> unfold Waits <;> infer_instance

end MySQLOption

/-- The setter never lets an option wait. -/
def NeverWaits {extra : Nat} (impl : SetOptionImpl extra) : Prop :=
  ∀ connected self, (impl connected self).1 ≠ .disconnected

section Waiting

variable {extra : Nat} (build : Build) (library : Library extra)

theorem answered_ne (result : Bool × Mysql extra) : (answered result).1 ≠ .disconnected := by
  unfold answered
  cases result.1 with
  | true => exact OptionError.noConfusion
  | false => exact OptionError.noConfusion

theorem neverWaits_whileDisconnected (set : Mysql extra → Bool × Mysql extra) :
    NeverWaits (whileDisconnected set) := by
  intro connected self
  unfold whileDisconnected
  cases connected with
  | true => exact OptionError.noConfusion
  | false => exact answered_ne _

theorem neverWaits_since (version : Nat) {impl : SetOptionImpl extra} (never : NeverWaits impl) :
    NeverWaits (since build version impl) := by
  intro connected self
  unfold since
  split_ifs with recent
  · exact never connected self
  · exact OptionError.noConfusion

theorem neverWaits_multiOption (flag : BitVec 32) (arg : Bool) :
    NeverWaits (multiOption build library flag arg) := by
  apply neverWaits_since
  intro connected self
  cases connected with
  | true => exact OptionError.noConfusion
  | false => exact answered_ne _

theorem neverWaits_setSsl (key cert ca capath cipher : Bytes) :
    NeverWaits (setSsl build library key cert ca capath cipher) := by
  intro connected self
  unfold setSsl
  split_ifs with present
  · exact neverWaits_whileDisconnected _ connected self
  · exact OptionError.noConfusion

theorem setReconnect_disconnected_iff (arg connected : Bool) (self : Mysql extra) :
    (setReconnect build library arg connected self).1 = .disconnected ↔
      (50013 ≤ build.mysqlVersionId ∧ build.mysqlVersionId < 50106) ∧ connected = false := by
  unfold setReconnect
  split_ifs with fixed present up
  · apply iff_of_false (answered_ne _)
    omega
  · apply iff_of_false (answered_ne _)
    rw [up]
    exact fun both => Bool.noConfusion both.2
  · exact iff_of_true rfl ⟨⟨present, by omega⟩, Bool.eq_false_iff.mpr up⟩
  · constructor
    · intro impossible
      cases impossible
    · omega

/-- Only one class of options waits for the connection, and that in some versions. -/
theorem setOptionImpl_disconnected_iff (option : MySQLOption) (connected : Bool)
    (self : Mysql extra) :
    (setOptionImpl build library option connected self).1 = .disconnected ↔
      option.Waits build ∧ connected = false := by
  have never {impl : SetOptionImpl extra} (this : NeverWaits impl) :
      (impl connected self).1 = .disconnected ↔ False ∧ connected = false :=
    iff_of_false (this connected self) fun both => both.1
  cases option with
  | reconnect arg => exact setReconnect_disconnected_iff build library arg connected self
  | multiResults arg | multiStatements arg =>
      exact never (neverWaits_multiOption build library _ arg)
  | ssl key cert ca capath cipher => exact never (neverWaits_setSsl build library _ _ _ _ _)
  | guessConnection | protocol | readTimeout | reportDataTruncation | secureAuth | setClientIp
  | sharedMemoryBaseName | useEmbeddedConnection | useRemoteConnection | writeTimeout =>
      exact never (neverWaits_since build _ (neverWaits_whileDisconnected _))
  | compress | connectTimeout | foundRows | ignoreSpace | initCommand | interactive | localFiles
  | localInfile | namedPipe | noSchema | readDefaultFile | readDefaultGroup | setCharsetDir
  | setCharsetName => exact never (neverWaits_whileDisconnected _)

end Waiting

/-! ### Which options are flags -/

namespace MySQLOption

/-- The flag that an option is about. -/
def flag (build : Build) : MySQLOption → Option (BitVec 32 × Bool)
  | .foundRows arg => some (clientFoundRows, arg)
  | .ignoreSpace arg => some (clientIgnoreSpace, arg)
  | .interactive arg => some (clientInteractive, arg)
  | .localFiles arg => some (clientLocalFiles, arg)
  | .multiResults arg =>
      if 40101 ≤ build.mysqlVersionId then some (clientMultiResults, arg) else none
  | .multiStatements arg =>
      if 40101 ≤ build.mysqlVersionId then some (clientMultiStatements, arg) else none
  | .noSchema arg => some (clientNoSchema, arg)
  | _ => none

/-- What an option makes of a bit of the flag word. -/
def writes (build : Build) (bit : Nat) (option : MySQLOption) : Option Bool :=
  (option.flag build).bind fun written =>
    if written.1.getLsbD bit then some written.2 else none

end MySQLOption

section Flags

variable {extra : Nat} {build : Build} {library : Library extra} {bit n : Nat}

theorem isFlag_twoPow (low : n < 18) : MySQLDriver.IsFlag (BitVec.twoPow 32 n) := by
  have size : (BitVec.twoPow 32 n).toNat = 2 ^ n := BitVec.toNat_twoPow_of_lt (by omega)
  constructor
  · exact (singleBit_iff _).mpr ⟨n, by omega, rfl⟩
  · rw [BitVec.le_def, size]
    exact Nat.one_le_two_pow
  · rw [BitVec.le_def, size]
    exact Nat.pow_le_pow_right (by decide) (by omega : n ≤ 17)

/-- A setter of a flag writes its bit, and leaves the others below 32. -/
theorem getLsbD_setClientFlag {flag : BitVec 32} (isFlag : MySQLDriver.IsFlag flag)
    (inFlags : bit < 32) (arg : Bool) (self : Mysql extra) :
    (setClientFlag flag arg self).2.clientFlag.getLsbD bit =
      (if flag.getLsbD bit then some arg else none).getD (self.clientFlag.getLsbD bit) := by
  unfold setClientFlag
  cases arg with
  | true =>
      rw [MySQLDriver.setOptionInternal_set isFlag, MySQLDriver.getLsbD_set]
      split <;> rfl
  | false =>
      rw [MySQLDriver.setOptionInternal_clear isFlag, MySQLDriver.getLsbD_clear,
        decide_eq_true inFlags, Bool.and_true]
      split <;> rfl

/-- The setter leaves the flag word as it is, while there is no connection. -/
def LeavesFlags (impl : SetOptionImpl extra) : Prop :=
  ∀ self, (impl false self).2.clientFlag = self.clientFlag

theorem leavesFlags_whileDisconnected (keeps : library.KeepsFlags) (option : MysqlOption)
    (arg : OptionArg) :
    LeavesFlags (whileDisconnected (setLibraryOption library option arg)) := fun self =>
  keeps.options self.calls option arg self.clientFlag

theorem leavesFlags_since (version : Nat) {impl : SetOptionImpl extra} (leaves : LeavesFlags impl) :
    LeavesFlags (since build version impl) := by
  intro self
  unfold since
  split_ifs
  · exact leaves self
  · rfl

theorem leavesFlags_setReconnect (keeps : library.KeepsFlags) (arg : Bool) :
    LeavesFlags (setReconnect build library arg) := by
  intro self
  have asked : (answered (setLibraryOption library .optReconnect (.flag arg) self)).2.clientFlag =
      self.clientFlag := keeps.options self.calls _ _ self.clientFlag
  unfold setReconnect
  rw [if_neg Bool.false_ne_true]
  split_ifs
  · exact asked
  · rfl
  · rfl

theorem leavesFlags_setSsl (keeps : library.KeepsFlags) (key cert ca capath cipher : Bytes) :
    LeavesFlags (setSsl build library key cert ca capath cipher) := by
  intro self
  unfold setSsl
  split_ifs
  · exact keeps.ssl self.calls key cert ca capath cipher self.clientFlag
  · rfl

/-- An option with several results, and a flag of its own. -/
theorem getLsbD_multiOption (low : n < 18) (inFlags : bit < 32) (arg : Bool)
    (self : Mysql extra) :
    (multiOption build library (BitVec.twoPow 32 n) arg false self).2.clientFlag.getLsbD bit =
      ((if 40101 ≤ build.mysqlVersionId then some (BitVec.twoPow 32 n, arg) else none).bind
        fun written => if written.1.getLsbD bit then some written.2 else none).getD
          (self.clientFlag.getLsbD bit) := by
  unfold multiOption since
  split_ifs
  · exact getLsbD_setClientFlag (isFlag_twoPow low) inFlags arg self
  · rfl

/-- While there is no connection, the options that are flags change their own bits of the
flag word below 32, and the others none. -/
theorem getLsbD_setOptionImpl (keeps : library.KeepsFlags) (inFlags : bit < 32)
    (option : MySQLOption) (self : Mysql extra) :
    (setOptionImpl build library option false self).2.clientFlag.getLsbD bit =
      (option.writes build bit).getD (self.clientFlag.getLsbD bit) := by
  have written {n : Nat} (low : n < 18) (arg : Bool) :=
    getLsbD_setClientFlag (isFlag_twoPow low) inFlags arg self
  have left_ {impl : SetOptionImpl extra} (leaves : LeavesFlags impl) :
      (impl false self).2.clientFlag.getLsbD bit = self.clientFlag.getLsbD bit := by
    rw [leaves self]
  cases option with
  | foundRows arg => exact written (n := 1) (by decide) arg
  | ignoreSpace arg => exact written (n := 8) (by decide) arg
  | interactive arg => exact written (n := 10) (by decide) arg
  | localFiles arg => exact written (n := 7) (by decide) arg
  | noSchema arg => exact written (n := 4) (by decide) arg
  | multiResults arg => exact getLsbD_multiOption (n := 17) (by decide) inFlags arg self
  | multiStatements arg => exact getLsbD_multiOption (n := 16) (by decide) inFlags arg self
  | reconnect arg => exact left_ (leavesFlags_setReconnect keeps arg)
  | ssl key cert ca capath cipher => exact left_ (leavesFlags_setSsl keeps _ _ _ _ _)
  | guessConnection | protocol | readTimeout | reportDataTruncation | secureAuth | setClientIp
  | sharedMemoryBaseName | useEmbeddedConnection | useRemoteConnection | writeTimeout =>
      exact left_ (leavesFlags_since _ (leavesFlags_whileDisconnected keeps _ _))
  | compress | connectTimeout | initCommand | localInfile | namedPipe | readDefaultFile
  | readDefaultGroup | setCharsetDir | setCharsetName =>
      exact left_ (leavesFlags_whileDisconnected keeps _ _)

end Flags

end LibTabula
