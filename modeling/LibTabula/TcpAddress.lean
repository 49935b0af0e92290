/-
`TCPConnection::parse_address`.

The address and the port are in-out parameters: what was cut off or read before a
mistake is found stays so. The services database is the system's; it is asked with a
C string and answers with the number of the port.
-/

import LibTabula.DateTimeBounds
import LibTabula.Foundation.Occurrence
import LibTabula.Foundation.Transcript
import LibTabula.StringConv

set_option autoImplicit false

namespace LibTabula

open Foundation
open Query (isdigit atoi)

/-! ### The string class -/

/-- In the C locale. -/
def isalnum (c : UInt8) : Bool :=
  isdigit c || byte 'a' ≤ c && c ≤ byte 'z' || byte 'A' ≤ c && c ≤ byte 'Z'

namespace StdString

/-- `find()`; `none` is `npos`. -/
def find (text : Bytes) (c : UInt8) (pos : Nat) : Option Nat :=
  Occurrence.next (fun d => decide (d = c)) text pos

def findFirstOf (text chars : Bytes) (pos : Nat) : Option Nat :=
  Occurrence.next (fun d => decide (d ∈ chars)) text pos

def substr (text : Bytes) (pos count : Nat) : Bytes := (text.drop pos).take count

end StdString

open StdString

/-- `getservbyname()` for TCP, and `ntohs()` of the port it finds. -/
abbrev Services := CString → Option UInt16

/-- The parameters `addr` and `port`. -/
structure Address where
  addr : Bytes
  port : UInt32
deriving DecidableEq, Repr

namespace TCPConnection

/-! ### Parsing -/

def malformed : Bytes := ascii "Malformed IPv6 [address]:service combination"

/-- The service name or port number, which is pulled off. -/
def pullOff : EStateM Bytes Address Bytes := fun self =>
  if self.addr.headD 0 = byte '[' then
    match find self.addr (byte ']') 0 with
    | none => .error malformed self
    | some pos =>
        if find self.addr (byte ':') (pos + 1) ≠ some (pos + 1) ∨
            findFirstOf self.addr (ascii "[]") (pos + 2) ≠ none then
          .error malformed self
        else
          let service := self.addr.drop (pos + 2)
          let separated := { self with addr := substr self.addr 1 (pos - 1) }
          if separated.addr ≠ [] ∧
              Occurrence.twice (fun c => decide (c = byte ':')) separated.addr = false then
            .error (ascii "IPv6 literal needs at least two colons") separated
          else .ok service separated
  else
    match find self.addr (byte ':') 0 with
    | none => .ok [] self
    | some pos =>
        if find self.addr (byte ':') (pos + 1) ≠ none then
          .error (ascii "IPv4 address:service combo can have only one colon") self
        else .ok (self.addr.drop (pos + 1)) { self with addr := substr self.addr 0 pos }

/-- The service is turned into a port number, if it was given. -/
def turnIntoPort (getservbyname : Services) (service : Bytes) : EStateM Bytes Address Unit :=
  fun self =>
    if service = [] then .ok () self
    else if isdigit (service.headD 0) then
      let numbered := { self with port := (strToInt (CString.ofData service).chars).toUInt32 }
      if numbered.port < 1 ∨ numbered.port > 65535 then
        .error (ascii "Invalid TCP port number " ++ service) numbered
      else .ok () numbered
    else
      match getservbyname (CString.ofData service) with
      | some port => .ok () { self with port := port.toUInt32 }
      | none => .error (ascii "Failed to look up TCP service " ++ service) self

def isAddressChar (c : UInt8) : Bool :=
  isalnum c || c = byte '.' || c = byte '-' || c = byte ':'

def checkCharacters : EStateM Bytes Address Unit := fun self =>
  match self.addr.find? fun c => !isAddressChar c with
  | some c => .error (ascii "Bad character '" ++ [c] ++ ascii "' in TCP/IP address") self
  | none => .ok () self

/-- `parse_address()`; what is thrown is the text of `error`, and false is returned. -/
def parseAddress (getservbyname : Services) : EStateM Bytes Address Unit := do
  let service ← pullOff
  turnIntoPort getservbyname service
  checkCharacters

/-! ### What is expected -/

def Bracketed (addr : Bytes) : Prop := addr.head? = some (byte '[')

/-- An address without brackets, with or without a service, or one with brackets and a
service, as far as the separators go. -/
inductive Divides : Bytes → Bytes → Bytes → Prop
  | host {host : Bytes} (plain : ¬ Bracketed host) (noColon : byte ':' ∉ host) :
      Divides host host []
  | combo {host service : Bytes} (plain : ¬ Bracketed (host ++ byte ':' :: service))
      (noColon : byte ':' ∉ host) : Divides (host ++ byte ':' :: service) host service
  | bracketed {host : Bytes} (service : Bytes) (noClose : byte ']' ∉ host) :
      Divides (byte '[' :: (host ++ byte ']' :: byte ':' :: service)) host service

/-- Empty, or at least two colons. -/
def ColonsEnough (host : Bytes) : Prop := host = [] ∨ 2 ≤ host.count (byte ':')

instance (host : Bytes) : Decidable (ColonsEnough host) := inferInstanceAs (Decidable (_ ∨ _))

/-- `host`, `host:service` or `[host]:service`, with letters, digits, dots and dashes in the
host; between brackets also colons, at least two of them unless nothing stands there. -/
structure Written (addr host service : Bytes) : Prop where
  divides : Divides addr host service
  chars : ∀ c ∈ host, isAddressChar c = true
  colons : Bracketed addr → ColonsEnough host

/-- A decimal numeral from 1 to 65535, or a name that the database knows. -/
def ServiceNumber (getservbyname : Services) (service : Bytes) (number : Nat) : Prop :=
  (service ≠ [] ∧ (∀ c ∈ service, isdigit c = true) ∧ 1 ≤ number ∧ number ≤ 65535 ∧
    number = atoi service) ∨
  ∃ name port, name.chars = service ∧ getservbyname name = some port ∧ number = port.toNat

/-- Exactly the addresses of these forms are accepted, and then the host is returned, and
the number of the service, or the port as it was without one. -/
structure AddressRight (getservbyname : Services) (addr : Bytes) (port : UInt32) : Prop where
  accepts : (∃ final, (parseAddress getservbyname).run ⟨addr, port⟩ = .ok () final) ↔
    ∃ host service, Written addr host service ∧
      (service = [] ∨ ∃ number, ServiceNumber getservbyname service number)
  sets : ∀ final, (parseAddress getservbyname).run ⟨addr, port⟩ = .ok () final →
    ∃ service, Written addr final.addr service ∧
      (service = [] ∧ final.port = port ∨
        service ≠ [] ∧ ServiceNumber getservbyname service final.port.toNat)

/-- No further separator stands in the service. -/
def Separated (addr service : Bytes) : Prop :=
  (Bracketed addr → byte '[' ∉ service ∧ byte ']' ∉ service) ∧
    (¬ Bracketed addr → byte ':' ∉ service)

/-! ### Pulling off the service -/

theorem decide_eq_false_of_not_mem {c : UInt8} {text : Bytes} (missing : c ∉ text) :
    ∀ d ∈ text, decide (d = c) = false := by
  intro d member
  rw [decide_eq_false_iff_not]
  intro same
  subst same
  exact missing member

theorem Divides.unique {addr host service otherHost otherService : Bytes}
    (one : Divides addr host service) (other : Divides addr otherHost otherService) :
    host = otherHost ∧ service = otherService := by
  have cut {front back other otherBack : Bytes} (c : UInt8) (before : c ∉ front)
      (otherBefore : c ∉ other) (same : front ++ c :: back = other ++ c :: otherBack) :
      front = other ∧ back = otherBack := by
    have both := Occurrence.cut_unique (decide_eq_false_of_not_mem before) (decide_eq_true rfl)
      (decide_eq_false_of_not_mem otherBefore) (decide_eq_true rfl) same
    exact ⟨both.1, both.2.2⟩
  generalize text : addr = same at other
  cases one with
  | host plain noColon =>
      cases other with
      | host _ _ => exact ⟨text, rfl⟩
      | combo _ _ =>
          rw [text] at noColon
          exact absurd (List.mem_append_right _ List.mem_cons_self) noColon
      | bracketed service _ =>
          rw [text] at plain
          exact absurd rfl plain
  | combo plain noColon =>
      cases other with
      | host _ otherNoColon =>
          rw [← text] at otherNoColon
          exact absurd (List.mem_append_right _ List.mem_cons_self) otherNoColon
      | combo _ otherNoColon => exact cut (byte ':') noColon otherNoColon text
      | bracketed service _ =>
          rw [text] at plain
          exact absurd rfl plain
  | bracketed service noClose =>
      cases other with
      | host otherPlain _ =>
          rw [← text] at otherPlain
          exact absurd rfl otherPlain
      | combo otherPlain _ =>
          rw [← text] at otherPlain
          exact absurd rfl otherPlain
      | bracketed _ otherNoClose =>
          have both := cut (byte ']') noClose otherNoClose (List.cons.inj text).2
          exact ⟨both.1, (List.cons.inj both.2).2⟩

/-- Where the parser finds the separators. -/
theorem find_first {front : Bytes} {c : UInt8} (before : c ∉ front) (back : Bytes) :
    find (front ++ c :: back) c 0 = some front.length :=
  Occurrence.next_append_cons (decide_eq_false_of_not_mem before) (decide_eq_true rfl) back

theorem find_eq_none_iff (text : Bytes) (c : UInt8) (pos : Nat) :
    find text c pos = none ↔ c ∉ text.drop pos := by
  rw [find, Occurrence.next_eq_none_iff]
  constructor
  · intro nowhere member
    exact of_decide_eq_false (nowhere c member) rfl
  · exact decide_eq_false_of_not_mem

theorem find_eq_self_iff (text : Bytes) (c : UInt8) (pos : Nat) :
    find text c pos = some pos ↔ (text.drop pos).head? = some c := by
  rw [find, Occurrence.next_eq_self_iff]
  constructor
  · intro ⟨d, head, same⟩
    rw [head, of_decide_eq_true same]
  · intro head
    exact ⟨c, head, decide_eq_true rfl⟩

theorem findFirstOf_brackets_iff (text : Bytes) (pos : Nat) :
    findFirstOf text (ascii "[]") pos = none ↔
      byte '[' ∉ text.drop pos ∧ byte ']' ∉ text.drop pos := by
  have brackets : ascii "[]" = [byte '[', byte ']'] := rfl
  rw [findFirstOf, Occurrence.next_eq_none_iff, brackets]
  constructor
  · intro nowhere
    have without (c : UInt8) (bracket : c ∈ [byte '[', byte ']']) : c ∉ text.drop pos :=
      fun member => of_decide_eq_false (nowhere c member) bracket
    exact ⟨without _ List.mem_cons_self, without _ (List.mem_cons_of_mem _ List.mem_cons_self)⟩
  · intro ⟨noOpen, noClose⟩ c member
    rw [decide_eq_false_iff_not, List.mem_pair]
    intro either
    rcases either with rfl | rfl
    · exact noOpen member
    · exact noClose member

theorem drop_cut (front back : Bytes) (c : UInt8) :
    (front ++ c :: back).drop (front.length + 1) = back := by
  rw [List.append_cons]
  exact List.drop_left' List.length_append

theorem bracketed_iff (addr : Bytes) : addr.headD 0 = byte '[' ↔ Bracketed addr := by
  cases addr with
  | nil => exact iff_of_false (by decide) nofun
  | cons c rest => exact (Option.some_inj (a := c)).symm

theorem colonsEnough_iff (host : Bytes) :
    ColonsEnough host ↔
      ¬ (host ≠ [] ∧ Occurrence.twice (fun c => decide (c = byte ':')) host = false) := by
  have twice := @Occurrence.twice_iff UInt8 (fun c => decide (c = byte ':')) host
  have count : host.countP (fun c => decide (c = byte ':')) = host.count (byte ':') :=
    List.countP_congr fun c _ => by rw [decide_eq_true_iff, beq_iff_eq]
  rw [not_and_or, not_not, Bool.not_eq_false, twice, count]
  exact Iff.rfl

section Pulling

variable {addr host service : Bytes} (port : UInt32)

/-- Without a bracket at the beginning. -/
theorem pullOff_plain (plain : ¬ Bracketed addr) :
    pullOff.run ⟨addr, port⟩ =
      match find addr (byte ':') 0 with
      | none => .ok [] ⟨addr, port⟩
      | some pos =>
          if find addr (byte ':') (pos + 1) ≠ none then
            .error (ascii "IPv4 address:service combo can have only one colon") ⟨addr, port⟩
          else .ok (addr.drop (pos + 1)) ⟨substr addr 0 pos, port⟩ := by
  simp only [pullOff, EStateM.run, if_neg (mt (bracketed_iff addr).mp plain)]

/-- With one, and with the end of the brackets at a position. -/
theorem pullOff_closed (back : Bytes) (noClose : byte ']' ∉ host) :
    pullOff.run ⟨byte '[' :: (host ++ byte ']' :: back), port⟩ =
      if back.head? ≠ some (byte ':') ∨ ¬ (byte '[' ∉ back.tail ∧ byte ']' ∉ back.tail) then
        .error malformed ⟨byte '[' :: (host ++ byte ']' :: back), port⟩
      else if ¬ ColonsEnough host then
        .error (ascii "IPv6 literal needs at least two colons") ⟨host, port⟩
      else .ok back.tail ⟨host, port⟩ := by
  have before : byte ']' ∉ byte '[' :: host := by
    rw [List.mem_cons, not_or]
    exact ⟨by decide, noClose⟩
  have first := find_first before back
  have behind := drop_cut (byte '[' :: host) back (byte ']')
  have tail : (byte '[' :: host ++ byte ']' :: back).drop ((byte '[' :: host).length + 2) =
      back.tail := by
    rw [← Nat.add_assoc _ 1 1, ← List.drop_drop, behind, List.drop_one]
  have separated : substr (byte '[' :: host ++ byte ']' :: back) 1
      ((byte '[' :: host).length - 1) = host := by
    rw [substr, List.cons_append, List.drop_succ_cons, List.drop_zero, List.length_cons,
      Nat.add_sub_cancel, List.take_left]
  have colon := find_eq_self_iff (byte '[' :: host ++ byte ']' :: back) (byte ':')
    ((byte '[' :: host).length + 1)
  have brackets := findFirstOf_brackets_iff (byte '[' :: host ++ byte ']' :: back)
    ((byte '[' :: host).length + 2)
  rw [behind] at colon
  rw [tail] at brackets
  have start : (byte '[' :: host ++ byte ']' :: back).headD 0 = byte '[' := rfl
  rw [← List.cons_append]
  simp only [pullOff, EStateM.run, if_pos start, first, ne_eq, colon, brackets, tail, separated]
  simp only [colonsEnough_iff, ne_eq, not_not]

/-- A text is without a character, or is cut at the first one. -/
theorem exists_cut (text : Bytes) (c : UInt8) :
    c ∉ text ∨ ∃ front back, text = front ++ c :: back ∧ c ∉ front := by
  rcases Occurrence.exists_cut (fun d => decide (d = c)) text with
    nowhere | ⟨front, d, back, cut, here, before⟩
  · exact Or.inl fun member => of_decide_eq_false (nowhere c member) rfl
  · rw [of_decide_eq_true here] at cut
    exact Or.inr ⟨front, back, cut, fun member => of_decide_eq_false (before c member) rfl⟩

theorem malformed_ne_nil : malformed ≠ [] := by decide

/-- The address is divided, with its separators and colons, or is refused. -/
def PullsApart (addr : Bytes) (port : UInt32) : Prop :=
  (∃ message final, message ≠ [] ∧ pullOff.run ⟨addr, port⟩ = .error message final) ∨
    ∃ host service, Divides addr host service ∧ Separated addr service ∧
      (Bracketed addr → ColonsEnough host) ∧
      pullOff.run ⟨addr, port⟩ = .ok service ⟨host, port⟩

theorem pullsApart_of_bracketed (bracketed : Bracketed addr) : PullsApart addr port := by
  rcases exists_cut addr (byte ']') with noClose | ⟨front, back, rfl, before⟩
  · have nowhere := (find_eq_none_iff addr (byte ']') 0).mpr noClose
    have start := (bracketed_iff addr).mpr bracketed
    refine Or.inl ⟨malformed, ⟨addr, port⟩, malformed_ne_nil, ?_⟩
    simp only [pullOff, EStateM.run, if_pos start, nowhere]
  cases front with
  | nil =>
      have same : byte ']' = byte '[' := Option.some.inj bracketed
      exact absurd same (by decide)
  | cons c host =>
      obtain rfl : c = byte '[' := Option.some.inj bracketed
      have noClose : byte ']' ∉ host := fun member => before (List.mem_cons_of_mem _ member)
      have pulled := pullOff_closed port back noClose
      rw [← List.cons_append] at pulled
      by_cases bad : back.head? ≠ some (byte ':') ∨
          ¬ (byte '[' ∉ back.tail ∧ byte ']' ∉ back.tail)
      · rw [if_pos bad] at pulled
        exact Or.inl ⟨_, _, malformed_ne_nil, pulled⟩
      rw [if_neg bad] at pulled
      by_cases few : ¬ ColonsEnough host
      · rw [if_pos few] at pulled
        exact Or.inl ⟨_, _, by decide, pulled⟩
      rw [if_neg few] at pulled
      rw [not_or, not_not, not_not] at bad
      obtain ⟨colon, brackets⟩ := bad
      cases back with
      | nil => cases colon
      | cons d service =>
          obtain rfl : d = byte ':' := Option.some.inj colon
          exact Or.inr ⟨host, service, .bracketed service noClose,
            ⟨fun _ => brackets, fun plain => absurd bracketed plain⟩,
            fun _ => not_not.mp few, pulled⟩

theorem pullsApart_of_plain (plain : ¬ Bracketed addr) : PullsApart addr port := by
  rcases exists_cut addr (byte ':') with noColon | ⟨host, service, rfl, before⟩
  · have nowhere := (find_eq_none_iff addr (byte ':') 0).mpr noColon
    have pulled := pullOff_plain port plain
    rw [nowhere] at pulled
    exact Or.inr ⟨addr, [], .host plain noColon,
      ⟨fun start => absurd start plain, fun _ => List.not_mem_nil⟩,
      fun start => absurd start plain, pulled⟩
  · have pulled := pullOff_plain port plain
    have second := find_eq_none_iff (host ++ byte ':' :: service) (byte ':') (host.length + 1)
    have front : substr (host ++ byte ':' :: service) 0 host.length = host := List.take_left
    rw [drop_cut] at second
    simp only [find_first before, drop_cut, ne_eq, second, not_not, front] at pulled
    by_cases more : byte ':' ∈ service
    · rw [if_pos more] at pulled
      exact Or.inl ⟨_, _, by decide, pulled⟩
    · rw [if_neg more] at pulled
      exact Or.inr ⟨host, service, .combo plain before,
        ⟨fun start => absurd start plain, fun _ => more⟩,
        fun start => absurd start plain, pulled⟩

/-- Each address pulls apart. -/
theorem pullOff_outcome (addr : Bytes) (port : UInt32) : PullsApart addr port := by
  by_cases bracketed : Bracketed addr
  · exact pullsApart_of_bracketed port bracketed
  · exact pullsApart_of_plain port bracketed

/-- What is divided so is pulled apart so. -/
theorem pullOff_ok (divides : Divides addr host service) (separated : Separated addr service)
    (colons : Bracketed addr → ColonsEnough host) :
    pullOff.run ⟨addr, port⟩ = .ok service ⟨host, port⟩ := by
  cases divides with
  | host plain noColon =>
      have nowhere := (find_eq_none_iff addr (byte ':') 0).mpr noColon
      rw [pullOff_plain port plain, nowhere]
  | combo plain noColon =>
      have onlyOne : find (host ++ byte ':' :: service) (byte ':') (host.length + 1) = none := by
        rw [find_eq_none_iff, drop_cut]
        exact separated.2 plain
      have front : substr (host ++ byte ':' :: service) 0 host.length = host := List.take_left
      rw [pullOff_plain port plain]
      simp only [find_first noColon, onlyOne, ne_eq, not_true_eq_false, if_false, drop_cut, front]
  | bracketed service noClose =>
      have enough := colons rfl
      have brackets := separated.1 rfl
      rw [pullOff_closed port _ noClose, if_neg ?_, if_neg (not_not.mpr enough)]
      · rfl
      · rw [not_or, not_not, not_not]
        exact ⟨rfl, brackets⟩

end Pulling

/-! ### The port -/

/-- What is read from the digits at the beginning: a number above the `long` type counts as
its greatest one, and 32 bits of it are kept. -/
def leadingNumber (service : Bytes) : Nat :=
  min (atoi (service.takeWhile isdigit)) (2 ^ 63 - 1) % 2 ^ 32

def Known (getservbyname : Services) (service : Bytes) (port : UInt16) : Prop :=
  ∃ name, name.chars = service ∧ getservbyname name = some port

/-- The number that the parser takes a service for. -/
def TakenFor (getservbyname : Services) (service : Bytes) (number : Nat) : Prop :=
  if isdigit (service.headD 0) then
    number = leadingNumber service ∧ 1 ≤ number ∧ number ≤ 65535
  else ∃ port, getservbyname (CString.ofData service) = some port ∧ number = port.toNat

theorem ne_zero_of_isdigit {c : UInt8} (digit : isdigit c = true) : c ≠ 0 :=
  ne_of_isdigit digit (by decide)

/-- Digits end before a NUL. -/
theorem takeWhile_isdigit_beforeNul (text : Bytes) :
    (beforeNul text).takeWhile isdigit = text.takeWhile isdigit := by
  have both : (fun c => decide (isdigit c = true ∧ decide (c ≠ 0) = true)) = isdigit := by
    funext c
    cases digit : isdigit c with
    | false => exact decide_eq_false fun both => Bool.false_ne_true both.1
    | true => exact decide_eq_true ⟨rfl, decide_eq_true (ne_zero_of_isdigit digit)⟩
  rw [beforeNul, Terminated.upTo, List.takeWhile_takeWhile, both]

theorem strtol_service {service : Bytes} (digit : isdigit (service.headD 0) = true) :
    strtol (CString.ofData service).chars = atoi (service.takeWhile isdigit) := by
  cases service with
  | nil => cases digit
  | cons c rest =>
      have chars : beforeNul (c :: rest) = c :: beforeNul rest :=
        Terminated.upTo_cons (ne_zero_of_isdigit digit) rest
      have digits := takeWhile_isdigit_beforeNul (c :: rest)
      have noSpace : ¬ isspace c = true := Bool.eq_false_iff.mp (isspace_of_isdigit digit)
      have start : (c :: beforeNul rest).dropWhile isspace = c :: beforeNul rest :=
        List.dropWhile_cons_of_neg noSpace
      have notMinus : c ≠ byte '-' := ne_of_isdigit digit (by decide)
      have notPlus : c ≠ byte '+' := ne_of_isdigit digit (by decide)
      rw [chars] at digits
      simp only [CString.ofData, chars, strtol, start, if_neg notMinus, if_neg notPlus, digits]

theorem toNat_ofInt (i : Int) : (Int32.ofInt i).toUInt32.toNat = (i % 2 ^ 32).toNat := by
  rw [← Int32.toNat_toBitVec, Int32.toBitVec_ofInt, BitVec.toNat_ofInt]
  rfl

theorem strToInt_digits {service : Bytes} (digit : isdigit (service.headD 0) = true) :
    (strToInt (CString.ofData service).chars).toUInt32.toNat = leadingNumber service := by
  rw [strToInt, strtol_service digit, toNat_ofInt, leadingNumber]
  omega

section Port

variable (getservbyname : Services) {service : Bytes}

/-- Without a service the port stays as it is. -/
def Chosen (service : Bytes) (before after : UInt32) : Prop :=
  service = [] ∧ after = before ∨ service ≠ [] ∧ TakenFor getservbyname service after.toNat

variable {getservbyname} in
theorem chosen_iff {before after : UInt32} (given : service ≠ []) :
    Chosen getservbyname service before after ↔ TakenFor getservbyname service after.toNat := by
  constructor
  · intro chosen
    rcases chosen with ⟨none, _⟩ | ⟨_, taken⟩
    · exact absurd none given
    · exact taken
  · intro taken
    exact Or.inr ⟨given, taken⟩

variable {getservbyname} in
theorem takenFor_iff_of_digit (digit : isdigit (service.headD 0) = true) (n : Nat) :
    TakenFor getservbyname service n ↔ n = leadingNumber service ∧ 1 ≤ n ∧ n ≤ 65535 := by
  rw [TakenFor, if_pos digit]

variable {getservbyname} in
theorem takenFor_iff_of_noDigit (noDigit : ¬ isdigit (service.headD 0) = true) (n : Nat) :
    TakenFor getservbyname service n ↔
      ∃ port, getservbyname (CString.ofData service) = some port ∧ n = port.toNat := by
  rw [TakenFor, if_neg noDigit]

theorem not_badPort_iff (port : UInt32) :
    ¬ (port < 1 ∨ port > 65535) ↔ 1 ≤ port.toNat ∧ port.toNat ≤ 65535 := by
  have least : (1 : UInt32).toNat = 1 := rfl
  have most : (65535 : UInt32).toNat = 65535 := rfl
  rw [gt_iff_lt, UInt32.lt_iff_toNat_lt, UInt32.lt_iff_toNat_lt]
  omega

/-- The service is refused, with a reason, or turned into the one port it is taken for. -/
def TurnsOut (service : Bytes) (self : Address) : Prop :=
  (∃ message final, message ≠ [] ∧
    (turnIntoPort getservbyname service).run self = .error message final ∧
    ∀ after, ¬ Chosen getservbyname service self.port after) ∨
  ∃ port, (turnIntoPort getservbyname service).run self = .ok () { self with port := port } ∧
    ∀ after, Chosen getservbyname service self.port after ↔ after = port

theorem turnsOut_of_digit (given : service ≠ []) (digit : isdigit (service.headD 0) = true)
    (self : Address) : TurnsOut getservbyname service self := by
  have number := strToInt_digits digit
  have range := not_badPort_iff (strToInt (CString.ofData service).chars).toUInt32
  by_cases bad : (strToInt (CString.ofData service).chars).toUInt32 < 1 ∨
      (strToInt (CString.ofData service).chars).toUInt32 > 65535
  · left
    refine ⟨ascii "Invalid TCP port number " ++ service,
      { self with port := (strToInt (CString.ofData service).chars).toUInt32 },
      List.cons_ne_nil _ _, ?_, ?_⟩
    · simp only [turnIntoPort, EStateM.run, if_neg given, if_pos digit, if_pos bad]
    · intro after chosen
      rw [chosen_iff given, takenFor_iff_of_digit digit] at chosen
      obtain ⟨same, inRange⟩ := chosen
      rw [same, ← number] at inRange
      exact range.mpr inRange bad
  · right
    refine ⟨(strToInt (CString.ofData service).chars).toUInt32, ?_, ?_⟩
    · simp only [turnIntoPort, EStateM.run, if_neg given, if_pos digit, if_neg bad]
    · intro after
      rw [chosen_iff given, takenFor_iff_of_digit digit, ← number, ← UInt32.toNat_inj]
      constructor
      · intro taken
        exact taken.1
      · intro same
        rw [same]
        exact ⟨rfl, range.mp bad⟩

theorem turnsOut_of_noDigit (given : service ≠ [])
    (noDigit : ¬ isdigit (service.headD 0) = true) (self : Address) :
    TurnsOut getservbyname service self := by
  cases found : getservbyname (CString.ofData service) with
  | none =>
      left
      refine ⟨ascii "Failed to look up TCP service " ++ service, self,
        List.cons_ne_nil _ _, ?_, ?_⟩
      · simp only [turnIntoPort, EStateM.run, if_neg given, if_neg noDigit, found]
      · intro after chosen
        rw [chosen_iff given, takenFor_iff_of_noDigit noDigit, found] at chosen
        obtain ⟨port, missing, _⟩ := chosen
        cases missing
  | some port =>
      right
      refine ⟨port.toUInt32, ?_, ?_⟩
      · simp only [turnIntoPort, EStateM.run, if_neg given, if_neg noDigit, found]
      · intro after
        rw [chosen_iff given, takenFor_iff_of_noDigit noDigit, found, ← UInt32.toNat_inj]
        constructor
        · intro ⟨other, same, taken⟩
          rw [taken, ← Option.some.inj same]
          exact (UInt16.toNat_toUInt32 port).symm
        · intro taken
          exact ⟨port, rfl, taken.trans (UInt16.toNat_toUInt32 port)⟩

theorem turnIntoPort_outcome (service : Bytes) (self : Address) :
    TurnsOut getservbyname service self := by
  by_cases given : service = []
  · right
    refine ⟨self.port, ?_, ?_⟩
    · simp only [turnIntoPort, EStateM.run, if_pos given]
    · intro after
      constructor
      · intro chosen
        rcases chosen with ⟨_, same⟩ | ⟨some, _⟩
        · exact same
        · exact absurd given some
      · intro same
        exact Or.inl ⟨given, same⟩
  · by_cases digit : isdigit (service.headD 0) = true
    · exact turnsOut_of_digit getservbyname given digit self
    · exact turnsOut_of_noDigit getservbyname given digit self

end Port

/-! ### The whole parser -/

section Parsing

variable (getservbyname : Services)

theorem checkCharacters_outcome (self : Address) :
    (∃ message, message ≠ [] ∧ checkCharacters.run self = .error message self ∧
      ¬ ∀ c ∈ self.addr, isAddressChar c = true) ∨
    checkCharacters.run self = .ok () self ∧ ∀ c ∈ self.addr, isAddressChar c = true := by
  cases bad : self.addr.find? fun c => !isAddressChar c with
  | none =>
      refine Or.inr ⟨by simp only [checkCharacters, EStateM.run, bad], fun c member => ?_⟩
      have good := List.find?_eq_none.mp bad c member
      rwa [Bool.not_eq_true, Bool.not_eq_false'] at good
  | some c =>
      refine Or.inl ⟨ascii "Bad character '" ++ [c] ++ ascii "' in TCP/IP address",
        List.cons_ne_nil _ _, by simp only [checkCharacters, EStateM.run, bad], fun good => ?_⟩
      have found := List.find?_some bad
      rw [good c (List.mem_of_find?_eq_some bad)] at found
      cases found

/-- `parse_address()` accepts what is written, separated and taken for a port; else it
gives a reason. -/
theorem parseAddress_outcome (addr : Bytes) (port : UInt32) :
    (∃ message final, message ≠ [] ∧
      (parseAddress getservbyname).run ⟨addr, port⟩ = .error message final ∧
      ∀ host service after, Written addr host service → Separated addr service →
        ¬ Chosen getservbyname service port after) ∨
    ∃ host service after, Written addr host service ∧ Separated addr service ∧
      (∀ other, Chosen getservbyname service port other ↔ other = after) ∧
      (parseAddress getservbyname).run ⟨addr, port⟩ = .ok () ⟨host, after⟩ := by
  rcases pullOff_outcome addr port with
    ⟨message, final, some, refused⟩ | ⟨host, service, divides, separated, colons, pulled⟩
  · refine Or.inl ⟨message, final, some, run_bind_of_error refused, ?_⟩
    intro host service after written separated _
    have pulled := pullOff_ok port written.divides separated written.colons
    rw [refused] at pulled
    cases pulled
  have theOnly {other otherService : Bytes} (written : Written addr other otherService) :
      host = other ∧ service = otherService := divides.unique written.divides
  rcases turnIntoPort_outcome getservbyname service ⟨host, port⟩ with
    ⟨message, final, some, refused, notTaken⟩ | ⟨number, turned, taken⟩
  · refine Or.inl ⟨message, final, some, ?_, ?_⟩
    · rw [parseAddress, run_bind_of_ok pulled]
      exact run_bind_of_error refused
    · intro other otherService after written _ chosen
      rw [← (theOnly written).2] at chosen
      exact notTaken after chosen
  rcases checkCharacters_outcome ⟨host, number⟩ with
    ⟨message, some, refused, badCharacter⟩ | ⟨checked, chars⟩
  · refine Or.inl ⟨message, ⟨host, number⟩, some, ?_, ?_⟩
    · rw [parseAddress, run_bind_of_ok pulled, run_bind_of_ok turned]
      exact refused
    · intro other otherService after written _ _
      rw [(theOnly written).1] at badCharacter
      exact badCharacter written.chars
  · refine Or.inr ⟨host, service, number, ⟨divides, chars, colons⟩, separated, taken, ?_⟩
    rw [parseAddress, run_bind_of_ok pulled, run_bind_of_ok turned]
    exact checked

/-- The parser gives a reason whenever it refuses. -/
theorem error_ne_nil {self final : Address} {message : Bytes}
    (refused : (parseAddress getservbyname).run self = .error message final) : message ≠ [] := by
  rcases parseAddress_outcome getservbyname self.addr self.port with
    ⟨other, after, some, same, _⟩ | ⟨host, service, after, _, _, _, accepted⟩
  · obtain ⟨rfl, _⟩ := EStateM.Result.error.inj (same.symm.trans refused)
    exact some
  · cases accepted.symm.trans refused

theorem accepts_iff (addr : Bytes) (port : UInt32) (final : Address) :
    (parseAddress getservbyname).run ⟨addr, port⟩ = .ok () final ↔
      ∃ service, Written addr final.addr service ∧ Separated addr service ∧
        Chosen getservbyname service port final.port := by
  rcases parseAddress_outcome getservbyname addr port with
    ⟨message, after, _, refused, never⟩ | ⟨host, service, after, written, separated, taken, ran⟩
  · rw [refused]
    refine iff_of_false nofun ?_
    intro ⟨service, written, separated, chosen⟩
    exact never _ service _ written separated chosen
  · rw [ran]
    constructor
    · intro same
      obtain ⟨_, rfl⟩ := EStateM.Result.ok.inj same
      exact ⟨service, written, separated, (taken after).mpr rfl⟩
    · intro ⟨otherService, otherWritten, _, chosen⟩
      obtain ⟨sameHost, sameService⟩ := written.divides.unique otherWritten.divides
      rw [← sameService, taken] at chosen
      rw [sameHost, ← chosen]

/-- Whether an address is accepted, and why not, does not depend on the port it comes
with. -/
theorem parseAddress_alike : Alike (fun self other => self.addr = other.addr)
    (parseAddress getservbyname) (parseAddress getservbyname) := by
  refine .bind ?pulling fun service => .bind ?turning fun _ => ?checking
  case pulling =>
    rintro ⟨addr, port⟩ ⟨_, other⟩ rfl
    simp only [pullOff, EStateM.run]
    cases find addr (byte ']') 0 <;> cases find addr (byte ':') 0 <;> dsimp only <;>
      split_ifs <;> exact ⟨rfl, rfl⟩
  case turning =>
    rintro ⟨addr, port⟩ ⟨_, other⟩ rfl
    simp only [turnIntoPort, EStateM.run]
    cases getservbyname (CString.ofData service) <;> dsimp only <;> split_ifs <;>
      exact ⟨rfl, rfl⟩
  case checking =>
    rintro ⟨addr, port⟩ ⟨_, other⟩ rfl
    simp only [checkCharacters, EStateM.run]
    cases addr.find? fun c => !isAddressChar c <;> exact ⟨rfl, rfl⟩

end Parsing

/-! ### When the parser is right -/

section Exactness

variable (getservbyname : Services)

def Unknown (service : Bytes) : Prop :=
  ∀ name : CString, name.chars = service → getservbyname name = none

/-- What the parser takes the service for is its number: a numeral from 1 to 65535; or
another text with a digit first, if the number it begins with is that of its name, or if it
is no name and that number is none of a port; or a text with another character first, if no
NUL stands in it, or if what is before the NUL is no name. -/
inductive ServiceAllowed (service : Bytes) : Prop
  | numeral (digits : ∀ c ∈ service, isdigit c = true) (least : 1 ≤ atoi service)
      (most : atoi service ≤ 65535)
  | number (port : UInt16) (digit : isdigit (service.headD 0) = true)
      (known : Known getservbyname service port) (least : 1 ≤ port.toNat)
      (same : leadingNumber service = port.toNat)
  | noNumber (digit : isdigit (service.headD 0) = true) (unknown : Unknown getservbyname service)
      (none : ¬ (1 ≤ leadingNumber service ∧ leadingNumber service ≤ 65535))
  | name (noDigit : ¬ isdigit (service.headD 0) = true)
      (whole : 0 ∉ service ∨ getservbyname (CString.ofData service) = none)

/-- For each address of one of the forms and with a service: the service is taken for its
number, or it has a separator of the address and is no name. -/
def AddressAllowed (addr : Bytes) : Prop :=
  ∀ host service, Written addr host service → service ≠ [] →
    (Separated addr service → ServiceAllowed getservbyname service) ∧
      (¬ Separated addr service → Unknown getservbyname service)

/-- What the parser takes a service for is its number, and each service with a number is
taken for one. -/
def NumberRead (service : Bytes) : Prop :=
  (∀ number, TakenFor getservbyname service number →
      ServiceNumber getservbyname service number) ∧
    ((∃ number, ServiceNumber getservbyname service number) →
      ∃ number, TakenFor getservbyname service number)

variable {getservbyname} {service : Bytes}

theorem leadingNumber_of_digits (digits : ∀ c ∈ service, isdigit c = true)
    (most : atoi service ≤ 65535) : leadingNumber service = atoi service := by
  have all : service.takeWhile isdigit = service := List.takeWhile_eq_self_iff.mpr digits
  rw [leadingNumber, all]
  omega

theorem digit_first (given : service ≠ []) (digits : ∀ c ∈ service, isdigit c = true) :
    isdigit (service.headD 0) = true := by
  obtain ⟨c, rest, rfl⟩ := List.exists_cons_of_ne_nil given
  exact digits c List.mem_cons_self

/-- A service with a digit first, read right: a numeral, or a name for what its digits make, or
nothing. -/
theorem serviceAllowed_of_numberRead (digit : isdigit (service.headD 0) = true)
    (read : NumberRead getservbyname service) : ServiceAllowed getservbyname service := by
  have takenIff := @takenFor_iff_of_digit getservbyname service digit
  obtain ⟨sound, complete⟩ := read
  by_cases numeral : (∀ c ∈ service, isdigit c = true) ∧ 1 ≤ atoi service ∧
      atoi service ≤ 65535
  · exact .numeral numeral.1 numeral.2.1 numeral.2.2
  by_cases unknown : Unknown getservbyname service
  · refine .noNumber digit unknown fun range => ?_
    rcases sound _ ((takenIff _).mpr ⟨rfl, range⟩) with
      ⟨_, digits, least, most, same⟩ | ⟨name, port, chars, found, _⟩
    · rw [same] at least most
      exact numeral ⟨digits, least, most⟩
    · rw [unknown name chars] at found
      cases found
  · rw [Unknown] at unknown
    push Not at unknown
    obtain ⟨name, chars, found⟩ := unknown
    obtain ⟨port, lookedUp⟩ := Option.ne_none_iff_exists'.mp found
    obtain ⟨number, taken⟩ := complete ⟨port.toNat, Or.inr ⟨name, port, chars, lookedUp, rfl⟩⟩
    have range := (takenIff number).mp taken
    rcases sound number taken with
      ⟨_, digits, least, most, same⟩ | ⟨other, otherPort, otherChars, otherFound, same⟩
    · rw [same] at least most
      exact absurd ⟨digits, least, most⟩ numeral
    · rw [same] at range
      exact .number otherPort digit ⟨other, otherChars, otherFound⟩ range.2.1 range.1.symm

theorem numberRead_of_serviceAllowed (given : service ≠ [])
    (digit : isdigit (service.headD 0) = true) (allowed : ServiceAllowed getservbyname service) :
    NumberRead getservbyname service := by
  have takenIff := @takenFor_iff_of_digit getservbyname service digit
  cases allowed with
  | numeral digits least most =>
      have leading := leadingNumber_of_digits digits most
      constructor
      · intro number taken
        obtain ⟨same, small, large⟩ := (takenIff number).mp taken
        exact Or.inl ⟨given, digits, small, large, same.trans leading⟩
      · intro _
        exact ⟨atoi service, (takenIff _).mpr ⟨leading.symm, least, most⟩⟩
  | number port _ known least same =>
      obtain ⟨name, chars, found⟩ := known
      constructor
      · intro number taken
        obtain ⟨leading, _⟩ := (takenIff number).mp taken
        exact Or.inr ⟨name, port, chars, found, leading.trans same⟩
      · intro _
        have most : port.toNat < 2 ^ 16 := port.toNat_lt
        exact ⟨port.toNat, (takenIff _).mpr ⟨same.symm, least, by omega⟩⟩
  | noNumber _ unknown none =>
      constructor
      · intro number taken
        obtain ⟨leading, range⟩ := (takenIff number).mp taken
        rw [leading] at range
        exact absurd range none
      · intro parts
        obtain ⟨number, ⟨_, digits, least, most, same⟩ | ⟨name, port, chars, found, _⟩⟩ := parts
        · rw [same] at least most
          rw [leadingNumber_of_digits digits most] at none
          exact absurd ⟨least, most⟩ none
        · rw [unknown name chars] at found
          cases found
  | name noDigit _ => exact absurd digit noDigit

/-- A service with a digit first. -/
theorem numberRead_iff_of_digit (given : service ≠ [])
    (digit : isdigit (service.headD 0) = true) :
    NumberRead getservbyname service ↔ ServiceAllowed getservbyname service :=
  ⟨serviceAllowed_of_numberRead digit, numberRead_of_serviceAllowed given digit⟩

/-- And one with another character first, which is no numeral. -/
theorem numberRead_iff_of_noDigit (noDigit : ¬ isdigit (service.headD 0) = true) :
    NumberRead getservbyname service ↔ ServiceAllowed getservbyname service := by
  have takenIff := @takenFor_iff_of_noDigit getservbyname service noDigit
  have asName {name : CString} (chars : name.chars = service) : CString.ofData service = name := by
    obtain ⟨_, noNul⟩ := name
    subst chars
    simp only [CString.ofData, beforeNul, Terminated.upTo_of_not_mem noNul]
  constructor
  · intro ⟨sound, _⟩
    refine .name noDigit ?_
    cases found : getservbyname (CString.ofData service) with
    | none => exact Or.inr rfl
    | some port =>
        rcases sound port.toNat ((takenIff _).mpr ⟨port, found, rfl⟩) with
          ⟨given, digits, _⟩ | ⟨name, _, chars, _⟩
        · exact absurd (digit_first given digits) noDigit
        · exact Or.inl (chars ▸ name.noNul)
  · intro allowed
    cases allowed with
    | name _ whole =>
        constructor
        · intro number taken
          obtain ⟨port, found, same⟩ := (takenIff number).mp taken
          rcases whole with noNul | missing
          · exact Or.inr ⟨_, port, Terminated.upTo_of_not_mem noNul, found, same⟩
          · rw [missing] at found
            cases found
        · intro parts
          obtain ⟨number, ⟨given, digits, _⟩ | ⟨name, port, chars, found, same⟩⟩ := parts
          · exact absurd (digit_first given digits) noDigit
          · refine ⟨number, (takenIff number).mpr ⟨port, ?_, same⟩⟩
            rw [asName chars]
            exact found
    | numeral digits least _ =>
        have given : service ≠ [] := by
          intro equal
          subst equal
          exact absurd least (by decide)
        exact absurd (digit_first given digits) noDigit
    | number _ digit _ _ _ => exact absurd digit noDigit
    | noNumber digit _ _ => exact absurd digit noDigit

theorem numberRead_iff (given : service ≠ []) :
    NumberRead getservbyname service ↔ ServiceAllowed getservbyname service := by
  by_cases digit : isdigit (service.headD 0) = true
  · exact numberRead_iff_of_digit given digit
  · exact numberRead_iff_of_noDigit digit

/-- The number is one of a port, also where the port is wider. -/
theorem exists_port_of_takenFor {number : Nat} (taken : TakenFor getservbyname service number) :
    ∃ port : UInt32, port.toNat = number := by
  have small : number < 2 ^ 32 := by
    rw [TakenFor] at taken
    split_ifs at taken with digit
    · omega
    · obtain ⟨port, _, same⟩ := taken
      have most : port.toNat < 2 ^ 16 := port.toNat_lt
      omega
  exact ⟨UInt32.ofNat number, UInt32.toNat_ofNat_of_lt' small⟩

theorem separated_of_digits (addr : Bytes) (digits : ∀ c ∈ service, isdigit c = true) :
    Separated addr service := by
  have without (c : UInt8) (other : isdigit c = false) : c ∉ service := fun member =>
    Bool.false_ne_true (other.symm.trans (digits c member))
  exact ⟨fun _ => ⟨without _ (by decide), without _ (by decide)⟩, fun _ => without _ (by decide)⟩

end Exactness

section Both

variable {getservbyname : Services} {addr : Bytes} {port : UInt32}

/-- Each service is seen in what becomes of an address that is written with it. -/
theorem addressAllowed_of_right (right : AddressRight getservbyname addr port) :
    AddressAllowed getservbyname addr := by
  intro host service written given
  have theService {final : Address} {other : Bytes}
      (otherWritten : Written addr final.addr other) : other = service :=
    (otherWritten.divides.unique written.divides).2
  have accepted (number : Nat) (known : ServiceNumber getservbyname service number) :
      ∃ final : Address, Separated addr service ∧
        Chosen getservbyname service port final.port := by
    obtain ⟨final, ran⟩ := right.accepts.mpr ⟨host, service, written, Or.inr ⟨number, known⟩⟩
    obtain ⟨other, otherWritten, separated, chosen⟩ := (accepts_iff _ _ _ _).mp ran
    rw [theService otherWritten] at separated chosen
    exact ⟨final, separated, chosen⟩
  constructor
  · intro separated
    apply (numberRead_iff given).mp
    constructor
    · intro number taken
      obtain ⟨after, same⟩ := exists_port_of_takenFor taken
      rw [← same] at taken ⊢
      have ran := (accepts_iff getservbyname addr port ⟨host, after⟩).mpr
        ⟨service, written, separated, (chosen_iff given).mpr taken⟩
      obtain ⟨other, otherWritten, ⟨none, _⟩ | ⟨_, known⟩⟩ := right.sets _ ran
      · rw [theService otherWritten] at none
        exact absurd none given
      · rwa [theService otherWritten] at known
    · intro ⟨number, known⟩
      obtain ⟨final, _, chosen⟩ := accepted number known
      exact ⟨final.port.toNat, (chosen_iff given).mp chosen⟩
  · intro notSeparated name chars
    cases found : getservbyname name with
    | none => rfl
    | some number =>
        have known : ServiceNumber getservbyname service number.toNat :=
          Or.inr ⟨name, number, chars, found, rfl⟩
        obtain ⟨_, separated, _⟩ := accepted number.toNat known
        exact absurd separated notSeparated

/-- What the port is set to is the number of the service. -/
theorem serviceNumber_of_chosen (allowed : AddressAllowed getservbyname addr)
    {host service : Bytes} {after : UInt32} (written : Written addr host service)
    (separated : Separated addr service) (given : service ≠ [])
    (chosen : Chosen getservbyname service port after) :
    ServiceNumber getservbyname service after.toNat := by
  have read := (numberRead_iff given).mpr ((allowed host service written given).1 separated)
  exact read.1 _ ((chosen_iff given).mp chosen)

/-- And a service with a number is taken for a port. -/
theorem exists_chosen_of_serviceNumber (port : UInt32) (allowed : AddressAllowed getservbyname addr)
    {host service : Bytes} (written : Written addr host service) (given : service ≠ [])
    {number : Nat} (numberOf : ServiceNumber getservbyname service number) :
    Separated addr service ∧ ∃ after, Chosen getservbyname service port after := by
  obtain ⟨whenSeparated, whenNot⟩ := allowed host service written given
  by_cases separated : Separated addr service
  · have read := (numberRead_iff given).mpr (whenSeparated separated)
    obtain ⟨other, taken⟩ := read.2 ⟨number, numberOf⟩
    obtain ⟨after, same⟩ := exists_port_of_takenFor taken
    rw [← same] at taken
    exact ⟨separated, after, (chosen_iff given).mpr taken⟩
  · rcases numberOf with ⟨_, digits, _⟩ | ⟨name, found, chars, lookedUp, _⟩
    · exact absurd (separated_of_digits addr digits) separated
    · rw [whenNot separated name chars] at lookedUp
      cases lookedUp

theorem addressRight_of_allowed (allowed : AddressAllowed getservbyname addr) :
    AddressRight getservbyname addr port where
  accepts := by
    constructor
    · intro ⟨final, ran⟩
      obtain ⟨service, written, separated, chosen⟩ := (accepts_iff _ _ _ _).mp ran
      refine ⟨final.addr, service, written, ?_⟩
      by_cases given : service = []
      · exact Or.inl given
      · exact Or.inr ⟨_, serviceNumber_of_chosen allowed written separated given chosen⟩
    · intro ⟨host, service, written, known⟩
      by_cases given : service = []
      · have separated : Separated addr service := separated_of_digits addr (by simp [given])
        exact ⟨⟨host, port⟩, (accepts_iff _ _ _ _).mpr
          ⟨service, written, separated, Or.inl ⟨given, rfl⟩⟩⟩
      · obtain ⟨number, numberOf⟩ := known.resolve_left given
        obtain ⟨separated, after, chosen⟩ :=
          exists_chosen_of_serviceNumber port allowed written given numberOf
        exact ⟨⟨host, after⟩, (accepts_iff _ _ _ _).mpr ⟨service, written, separated, chosen⟩⟩
  sets := by
    intro final ran
    obtain ⟨service, written, separated, chosen⟩ := (accepts_iff _ _ _ _).mp ran
    refine ⟨service, written, ?_⟩
    by_cases given : service = []
    · rcases chosen with none | some
      · exact Or.inl none
      · exact absurd given some.1
    · exact Or.inr ⟨given, serviceNumber_of_chosen allowed written separated given chosen⟩

end Both

/-- For every database of services, every address and every port. -/
theorem addressRight_iff (getservbyname : Services) (addr : Bytes) (port : UInt32) :
    AddressRight getservbyname addr port ↔ AddressAllowed getservbyname addr :=
  ⟨addressAllowed_of_right, addressRight_of_allowed⟩

/-- The port is read up to the first letter. -/
theorem letters_behind_port :
    (parseAddress fun _ => none).run ⟨ascii "db.example:80abc", 0⟩ =
        .ok () ⟨ascii "db.example", 80⟩ ∧
      ¬ AddressRight (fun _ => none) (ascii "db.example:80abc") 0 := by
  have accepted : (parseAddress fun _ => none).run ⟨ascii "db.example:80abc", 0⟩ =
      .ok () ⟨ascii "db.example", 80⟩ := by rfl
  have parts : ascii "db.example:80abc" = ascii "db.example" ++ byte ':' :: ascii "80abc" := rfl
  have divides : Divides (ascii "db.example:80abc") (ascii "db.example") (ascii "80abc") := by
    rw [parts]
    exact .combo (fun bracket => absurd (Option.some.inj bracket) (by decide)) (by decide)
  constructor
  · exact accepted
  · intro right
    obtain ⟨service, written, number⟩ := right.sets _ accepted
    rw [← (divides.unique written.divides).2] at number
    rcases number with ⟨none, _⟩ | ⟨_, ⟨_, digits, _⟩ | ⟨name, port, _, found, _⟩⟩
    · exact absurd none (by decide)
    · exact absurd digits (by decide)
    · cases found

end TCPConnection

end LibTabula
