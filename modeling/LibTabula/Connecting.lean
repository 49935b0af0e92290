/-
`Connection::connect` and `TCPConnection::connect`.

The server parameter says how the server is contacted; what is no pipe and no socket is
parsed as an address. The port is an in-out parameter on the way to the driver, and what
the driver is called with is recorded.
-/

import LibTabula.TcpAddress

set_option autoImplicit false

namespace LibTabula

open Foundation

/-- What the functions ask of the system. `usableSocket` is what `access()` and `stat()` say
of a path. -/
structure Platform where
  getservbyname : Services
  windows : Bool
  usableSocket : CString → Bool

structure DriverCall where
  host : CString
  socketName : Option CString
  port : UInt32
  db : Option CString
  user : Option CString
  password : Option CString

/-- The driver's functions that connecting calls, over an arbitrary state. -/
structure ConnectDriver (δ : Type) where
  connect : DriverCall → δ → Bool × δ
  error : δ → CString
  errnum : δ → Int

structure ConnectionFailed where
  what : CString
  errnum : Int

/-- `Connection`, with the calls of the driver's `connect()`. -/
structure Connector (δ : Type) where
  throwExceptions : Bool
  errorMessage : Bytes
  copacetic : Bool
  driverState : δ
  calls : List DriverCall

def WindowsNamedPipeConnection.isWnp (platform : Platform) (server : CString) : Bool :=
  platform.windows && server.chars = ascii "."

def UnixDomainSocketConnection.isSocket (platform : Platform) (path : CString) : Bool :=
  !platform.windows && platform.usableSocket path

open WindowsNamedPipeConnection UnixDomainSocketConnection
open TCPConnection (parseAddress Written Chosen TakenFor)

/-- What `parse_ipc_method()` returns and what it leaves in its parameters and in
`error_message_`. -/
structure IpcMethod where
  ok : Bool
  host : Bytes
  port : UInt32
  socketName : Bytes
  errorMessage : Bytes

/-- With empty texts for the host, the socket and the error. -/
def parseIpcMethod (platform : Platform) (server : Option CString) (port : UInt32) : IpcMethod :=
  match server with
  | none => { ok := true, host := [], port := port, socketName := [], errorMessage := [] }
  | some server =>
      if isWnp platform server then
        { ok := true, host := server.chars, port := port, socketName := [], errorMessage := [] }
      else if isSocket platform server then
        { ok := true, host := [], port := port, socketName := server.chars, errorMessage := [] }
      else
        match (parseAddress platform.getservbyname).run ⟨server.chars, port⟩ with
        | .ok _ parsed =>
            { ok := true, host := parsed.addr, port := parsed.port, socketName := []
              errorMessage := [] }
        | .error message parsed =>
            { ok := false, host := parsed.addr, port := parsed.port, socketName := []
              errorMessage := message }

/-- What the driver is called with then. -/
def IpcMethod.call (self : IpcMethod) (db user password : Option CString) : DriverCall :=
  { host := CString.ofData self.host
    socketName := if self.socketName.isEmpty then none else some (CString.ofData self.socketName)
    port := self.port
    db := db
    user := user
    password := password }

namespace Connector

variable {δ : Type} (platform : Platform) (driver : ConnectDriver δ)

def error (self : Connector δ) : CString :=
  if self.errorMessage.length ≠ 0 then CString.ofData self.errorMessage
  else driver.error self.driverState

/-- `driver_->connect()`. -/
def contact (self : Connector δ) (call : DriverCall) : Bool × Connector δ :=
  ((driver.connect call self.driverState).1,
    { self with
      driverState := (driver.connect call self.driverState).2
      calls := self.calls ++ [call] })

/-- `Connection::connect()`. -/
def connect (db server user password : Option CString) (port : UInt32) :
    EStateM ConnectionFailed (Connector δ) Bool := fun self =>
  let method := parseIpcMethod platform server port
  let parsed := { self with errorMessage := method.errorMessage }
  let (copacetic, contacted) :=
    if method.ok then contact driver parsed (method.call db user password) else (false, parsed)
  let after := { contacted with copacetic := copacetic }
  if !copacetic && after.throwExceptions then
    .error ⟨after.error driver, driver.errnum after.driverState⟩ after
  else .ok copacetic after

/-- The end of `TCPConnection::connect()`, with the address and the port. -/
def connectParsed (address : Bytes) (port : UInt32) (db user password : Option CString) :
    EStateM ConnectionFailed (Connector δ) Bool := fun self =>
  if self.errorMessage.isEmpty then
    (connect platform driver db (some (CString.ofData address)) user password port).run self
  else if self.throwExceptions then .error ⟨CString.ofData self.errorMessage, 0⟩ self
  else .ok false self

/-- `TCPConnection::connect()`. -/
def tcpConnect (addr db user password : Option CString) :
    EStateM ConnectionFailed (Connector δ) Bool := fun self =>
  let cleared := { self with errorMessage := [] }
  match addr with
  | none => (connectParsed platform driver [] 0 db user password).run cleared
  | some addr =>
      match (parseAddress platform.getservbyname).run ⟨addr.chars, 0⟩ with
      | .error message _ => .ok false { cleared with errorMessage := message }
      | .ok _ parsed =>
          (connectParsed platform driver parsed.addr parsed.port db user password).run cleared

end Connector

/-! ### The port -/

/-- A server string that parses as a network address. -/
structure NetworkServer (platform : Platform) where
  server : CString
  parses : ∃ final, (parseAddress platform.getservbyname).run ⟨server.chars, 0⟩ = .ok () final

namespace NetworkServer

variable {platform : Platform}

/-- The port that is named in the server string, or 0. -/
def namedPort (self : NetworkServer platform) : UInt32 :=
  ((parseAddress platform.getservbyname).run ⟨self.server.chars, 0⟩).final.port

/-- What names a pipe or a socket is not parsed. -/
def Local (self : NetworkServer platform) : Prop :=
  isWnp platform self.server = true ∨ isSocket platform self.server = true

def WithoutService (self : NetworkServer platform) : Prop :=
  ∃ host, Written self.server.chars host []

/-- A service in the server string overwrites the port, whatever it was. -/
theorem parsed_with (self : NetworkServer platform) (port : UInt32) :
    ∃ final, (parseAddress platform.getservbyname).run ⟨self.server.chars, port⟩ = .ok () final ∧
      (self.WithoutService ∧ final.port = port ∨
        ¬ self.WithoutService ∧ final.port = self.namedPort) := by
  obtain ⟨parsed, ran⟩ := self.parses
  obtain ⟨service, written, separated, chosen⟩ := (TCPConnection.accepts_iff _ _ _ _).mp ran
  by_cases given : service = []
  · subst given
    refine ⟨⟨parsed.addr, port⟩, ?_, Or.inl ⟨⟨parsed.addr, written⟩, rfl⟩⟩
    exact (TCPConnection.accepts_iff _ _ _ _).mpr ⟨[], written, separated, Or.inl ⟨rfl, rfl⟩⟩
  · refine ⟨parsed, ?_, Or.inr ⟨?_, ?_⟩⟩
    · have taken := (TCPConnection.chosen_iff given).mp chosen
      exact (TCPConnection.accepts_iff _ _ _ _).mpr
        ⟨service, written, separated, (TCPConnection.chosen_iff given).mpr taken⟩
    · intro ⟨host, without⟩
      exact given (written.divides.unique without.divides).2
    · rw [namedPort, ran]
      rfl

end NetworkServer

namespace Connector

variable {δ : Type} {platform : Platform} (driver : ConnectDriver δ)

section Calls

variable (db server user password : Option CString) (port : UInt32) (self : Connector δ)

/-- Refused addresses are not handed to the driver. -/
theorem connect_refused (refused : (parseIpcMethod platform server port).ok = false) :
    let parsed := { self with
      errorMessage := (parseIpcMethod platform server port).errorMessage
      copacetic := false }
    (connect platform driver db server user password port).run self =
      if self.throwExceptions then
        .error ⟨parsed.error driver, driver.errnum parsed.driverState⟩ parsed
      else .ok false parsed := by
  simp only [connect, EStateM.run, refused, Bool.false_eq_true, if_false, Bool.not_false,
    Bool.true_and]

/-- And what is accepted is handed to it once, however the call ends. -/
theorem connect_accepted (accepted : (parseIpcMethod platform server port).ok = true) :
    ((connect platform driver db server user password port).run self).final.calls =
      self.calls ++ [(parseIpcMethod platform server port).call db user password] := by
  simp only [connect, EStateM.run, accepted, if_true, contact]
  split_ifs <;> rfl

end Calls

/-- The port that is handed to the driver is the argument, if that is not 0, and else the one
in the server string. -/
def PortPrecedes (server : NetworkServer platform) (db user password : Option CString)
    (port : UInt32) (self : Connector δ) : Prop :=
  ∃ call : DriverCall,
    ((connect platform driver db (some server.server) user password port).run self).final.calls =
        self.calls ++ [call] ∧
      call.port = if port ≠ 0 then port else server.namedPort

/-- No port is passed, or none is named, or the same; or, where the server string is not
parsed, a port is passed, or none is named. -/
def PortAllowed (server : NetworkServer platform) (port : UInt32) : Prop :=
  (server.Local → port ≠ 0 ∨ server.namedPort = 0) ∧
    (¬ server.Local → port = 0 ∨ server.WithoutService ∨ server.namedPort = port)

/-- A server string is taken for what it names, and else parsed. -/
theorem parseIpcMethod_local {server : NetworkServer platform} (named : server.Local)
    (port : UInt32) :
    (parseIpcMethod platform (some server.server) port).ok = true ∧
      (parseIpcMethod platform (some server.server) port).port = port := by
  by_cases pipe : isWnp platform server.server = true
  · simp only [parseIpcMethod, if_pos pipe, and_self]
  · have socket := named.resolve_left pipe
    simp only [parseIpcMethod, if_neg pipe, if_pos socket, and_self]

theorem parseIpcMethod_parsed {server : NetworkServer platform} (unnamed : ¬ server.Local)
    {port : UInt32} {parsed : Address}
    (ran : (parseAddress platform.getservbyname).run ⟨server.server.chars, port⟩ =
      .ok () parsed) :
    (parseIpcMethod platform (some server.server) port).ok = true ∧
      (parseIpcMethod platform (some server.server) port).port = parsed.port := by
  obtain ⟨noPipe, noSocket⟩ := not_or.mp unnamed
  simp only [parseIpcMethod, if_neg noPipe, if_neg noSocket, ran, and_self]

theorem portPrecedes_iff_of_handed {server : NetworkServer platform}
    (db user password : Option CString) {port handed : UInt32} (self : Connector δ)
    (method : (parseIpcMethod platform (some server.server) port).ok = true ∧
      (parseIpcMethod platform (some server.server) port).port = handed) :
    PortPrecedes driver server db user password port self ↔
      handed = if port ≠ 0 then port else server.namedPort := by
  have calls := connect_accepted driver db (some server.server) user password port self method.1
  rw [PortPrecedes, calls]
  constructor
  · intro ⟨call, same, right⟩
    obtain rfl := List.singleton_inj.mp (List.append_cancel_left same)
    rw [← right]
    exact method.2.symm
  · intro right
    exact ⟨_, rfl, method.2.trans right⟩

/-- For every server string that parses as an address and every other argument. -/
theorem portPrecedes_iff (server : NetworkServer platform) (db user password : Option CString)
    (port : UInt32) (self : Connector δ) :
    PortPrecedes driver server db user password port self ↔ PortAllowed server port := by
  by_cases named : server.Local
  · rw [portPrecedes_iff_of_handed driver db user password self (parseIpcMethod_local named port)]
    by_cases passed : port ≠ 0
    · rw [if_pos passed]
      exact iff_of_true rfl ⟨fun _ => Or.inl passed, fun unnamed => absurd named unnamed⟩
    · rw [if_neg passed, not_not.mp passed]
      constructor
      · intro same
        exact ⟨fun _ => Or.inr same.symm, fun unnamed => absurd named unnamed⟩
      · intro allowed
        rcases allowed.1 named with some | none
        · exact absurd rfl some
        · exact none.symm
  · obtain ⟨parsed, ran, handed⟩ := server.parsed_with port
    rw [portPrecedes_iff_of_handed driver db user password self (parseIpcMethod_parsed named ran)]
    by_cases passed : port ≠ 0
    · rw [if_pos passed]
      rcases handed with ⟨without, same⟩ | ⟨service, same⟩
      · exact iff_of_true same ⟨fun isLocal => absurd isLocal named,
          fun _ => Or.inr (Or.inl without)⟩
      · rw [same]
        constructor
        · intro equal
          exact ⟨fun isLocal => absurd isLocal named, fun _ => Or.inr (Or.inr equal)⟩
        · intro allowed
          exact ((allowed.2 named).resolve_left passed).resolve_left service
    · rw [if_neg passed]
      have zero := not_not.mp passed
      rw [zero] at ran
      have same : parsed.port = server.namedPort := by
        rw [NetworkServer.namedPort, ran]
        rfl
      exact iff_of_true same ⟨fun isLocal => absurd isLocal named, fun _ => Or.inl zero⟩

/-- A system without services and sockets, and a driver that connects. -/
def bareHost : Platform :=
  { getservbyname := fun _ => none, windows := false, usableSocket := fun _ => false }

def willingDriver : ConnectDriver Unit :=
  { connect := fun _ state => (true, state), error := fun _ => CString.ofData []
    errnum := fun _ => 0 }

def unconnected (te : Bool) : Connector Unit :=
  { throwExceptions := te, errorMessage := [], copacetic := true, driverState := (), calls := [] }

/-- `"h:80"`. -/
def portEighty : NetworkServer bareHost :=
  { server := CString.ofData (ascii "h:80"), parses := ⟨⟨ascii "h", 80⟩, rfl⟩ }

/-- The port 3306 is passed and 80 is handed to the driver. -/
theorem named_port_precedes :
    ((connect bareHost willingDriver none (some portEighty.server) none none 3306).run
        (unconnected true)).final.calls.map DriverCall.port = [80] ∧
      ¬ PortPrecedes willingDriver portEighty none none none 3306 (unconnected true) := by
  have handed : ((connect bareHost willingDriver none (some portEighty.server) none none 3306).run
      (unconnected true)).final.calls.map DriverCall.port = [80] := rfl
  constructor
  · exact handed
  · intro ⟨call, calls, port⟩
    rw [calls] at handed
    rw [List.singleton_inj.mp handed] at port
    revert port
    decide

end Connector

/-! ### Rejected addresses -/

/-- An address that `parse_address()` rejects, with the error it gives. -/
structure RejectedAddress (platform : Platform) where
  addr : CString
  message : Bytes
  rejected : ((parseAddress platform.getservbyname).run ⟨addr.chars, 0⟩).outcome =
    .error message

namespace RejectedAddress

variable {platform : Platform}

theorem rejected_with (self : RejectedAddress platform) (port : UInt32) :
    ∃ final, (parseAddress platform.getservbyname).run ⟨self.addr.chars, port⟩ =
      .error self.message final := by
  have same := (TCPConnection.parseAddress_alike platform.getservbyname
    ⟨self.addr.chars, 0⟩ ⟨self.addr.chars, port⟩ rfl).1
  rw [self.rejected] at same
  exact ⟨_, EStateM.Result.eq_error same.symm⟩

theorem message_ne_nil (self : RejectedAddress platform) : self.message ≠ [] := by
  obtain ⟨final, rejected⟩ := self.rejected_with 0
  exact TCPConnection.error_ne_nil platform.getservbyname rejected

/-- A dot is an address. -/
theorem no_pipe (self : RejectedAddress platform) : isWnp platform self.addr = false := by
  rw [isWnp, Bool.and_eq_false_iff]
  refine Or.inr (decide_eq_false fun dot => ?_)
  have rejected := self.rejected
  rw [dot] at rejected
  cases rejected

end RejectedAddress

namespace Connector

variable {δ : Type} {platform : Platform} (driver : ConnectDriver δ)

/-- The driver is not called; the error is thrown, or false is returned and `error()`
gives it. -/
structure Reported (before : Connector δ) (message : Bytes)
    (result : EStateM.Result ConnectionFailed (Connector δ) Bool) : Prop where
  apart : result.final.calls = before.calls
  thrown : before.throwExceptions = true →
    ∃ failure, result.outcome = .error failure ∧ failure.what = CString.ofData message
  returned : before.throwExceptions = false →
    result.outcome = .ok false ∧ result.final.error driver = CString.ofData message

def ReportedAlike (address : RejectedAddress platform) (db user password : Option CString)
    (port : UInt32) (self : Connector δ) : Prop :=
  Reported driver self address.message
      ((tcpConnect platform driver (some address.addr) db user password).run self) ∧
    Reported driver self address.message
      ((connect platform driver db (some address.addr) user password port).run self)

theorem error_of_message {self : Connector δ} (message : self.errorMessage ≠ []) :
    self.error driver = CString.ofData self.errorMessage :=
  if_pos (mt List.length_eq_zero_iff.mp message)

section Rejecting

variable (address : RejectedAddress platform) (db user password : Option CString)
  (port : UInt32) (self : Connector δ)

/-- The early return, whether or not exceptions are enabled. -/
theorem tcpConnect_rejected :
    (tcpConnect platform driver (some address.addr) db user password).run self =
      .ok false { self with errorMessage := address.message } := by
  obtain ⟨final, rejected⟩ := address.rejected_with 0
  simp only [tcpConnect, EStateM.run] at rejected ⊢
  simp only [rejected]

theorem connect_rejected (noSocket : isSocket platform address.addr = false) :
    Reported driver self address.message
      ((connect platform driver db (some address.addr) user password port).run self) := by
  obtain ⟨final, rejected⟩ := address.rejected_with port
  have pipe : ¬ isWnp platform address.addr = true := Bool.eq_false_iff.mp address.no_pipe
  have socket : ¬ isSocket platform address.addr = true := Bool.eq_false_iff.mp noSocket
  have method : (parseIpcMethod platform (some address.addr) port).ok = false ∧
      (parseIpcMethod platform (some address.addr) port).errorMessage = address.message := by
    simp only [parseIpcMethod, if_neg pipe, if_neg socket, rejected, and_self]
  have ran := connect_refused driver db (some address.addr) user password port self method.1
  have error : Connector.error driver
      { self with errorMessage := address.message, copacetic := false } =
        CString.ofData address.message := error_of_message driver address.message_ne_nil
  simp only [method.2, error] at ran
  rw [ran]
  cases throws : self.throwExceptions with
  | true =>
      exact ⟨rfl, fun _ => ⟨_, rfl, rfl⟩, fun off => absurd (throws.symm.trans off) (by decide)⟩
  | false =>
      exact ⟨rfl, fun on => absurd (throws.symm.trans on) (by decide), fun _ => ⟨rfl, error⟩⟩

/-- A socket of that name is contacted. -/
theorem connect_socket (socket : isSocket platform address.addr = true) :
    ∃ call, ((connect platform driver db (some address.addr) user password port).run
      self).final.calls = self.calls ++ [call] := by
  have pipe : ¬ isWnp platform address.addr = true := Bool.eq_false_iff.mp address.no_pipe
  have accepted : (parseIpcMethod platform (some address.addr) port).ok = true := by
    simp only [parseIpcMethod, if_neg pipe, if_pos socket]
  exact ⟨_, connect_accepted driver db (some address.addr) user password port self accepted⟩

end Rejecting

/-- For every address that is rejected, and every other argument. -/
theorem reportedAlike_iff (address : RejectedAddress platform) (db user password : Option CString)
    (port : UInt32) (self : Connector δ) :
    ReportedAlike driver address db user password port self ↔
      self.throwExceptions = false ∧ isSocket platform address.addr = false := by
  have early := tcpConnect_rejected driver address db user password self
  rw [ReportedAlike, early]
  constructor
  · intro ⟨tcp, general⟩
    constructor
    · cases throws : self.throwExceptions with
      | false => rfl
      | true =>
          obtain ⟨failure, thrown, _⟩ := tcp.thrown throws
          cases thrown
    · cases socket : isSocket platform address.addr with
      | false => rfl
      | true =>
          obtain ⟨call, calls⟩ := connect_socket driver address db user password port self socket
          rw [general.apart] at calls
          cases List.self_eq_append_right.mp calls
  · intro ⟨off, noSocket⟩
    constructor
    · exact ⟨rfl, fun on => absurd (off.symm.trans on) (by decide),
        fun _ => ⟨rfl, error_of_message driver address.message_ne_nil⟩⟩
    · exact connect_rejected driver address db user password port self noSocket

/-- `"@"`. -/
def atSign : RejectedAddress bareHost :=
  { addr := CString.ofData (ascii "@"), message := ascii "Bad character '@' in TCP/IP address"
    rejected := rfl }

/-- With exceptions enabled, false is returned. -/
theorem rejection_not_thrown :
    ((tcpConnect bareHost willingDriver (some atSign.addr) none none none).run
        (unconnected true)).outcome = .ok false ∧
      ¬ ReportedAlike willingDriver atSign none none none 0 (unconnected true) := by
  have quiet : ((tcpConnect bareHost willingDriver (some atSign.addr) none none none).run
      (unconnected true)).outcome = .ok false := rfl
  constructor
  · exact quiet
  · intro ⟨tcp, _⟩
    obtain ⟨failure, thrown, _⟩ := tcp.thrown rfl
    cases quiet.symm.trans thrown

end Connector

end LibTabula
