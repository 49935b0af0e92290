/-
The attributes of SSQLS v2 directives.

Behind the name of a table or a field stand attributes, each followed by its value. The
loop takes two tokens at a time. What it has set in the end is what was listed last, and
a token that is left over is not noticed.
-/

import LibTabula.ParseV2
import LibTabula.Foundation.LastWrite

set_option autoImplicit false

namespace LibTabula.ParseV2

open Foundation

/-! ### Pairs -/

/-- The attributes with their values, without a token left over. -/
def pairs : List Bytes → List (Bytes × Bytes)
  | attr :: value :: rest => (attr, value) :: pairs rest
  | _ => []

def unpaired (listed : List (Bytes × Bytes)) : List Bytes :=
  listed.flatMap fun pair => [pair.1, pair.2]

theorem pairs_unpaired (listed : List (Bytes × Bytes)) : pairs (unpaired listed) = listed := by
  induction listed with
  | nil => rfl
  | cons pair listed ih =>
      change (pair.1, pair.2) :: pairs (unpaired listed) = pair :: listed
      rw [ih]

/-- All tokens are in pairs if there is an even number of them. -/
theorem unpaired_pairs_iff (tl : List Bytes) : unpaired (pairs tl) = tl ↔ tl.length % 2 = 0 := by
  induction tl using pairs.induct with
  | case1 attr value rest ih =>
      have whole : unpaired (pairs (attr :: value :: rest)) =
          attr :: value :: unpaired (pairs rest) := rfl
      rw [whole, List.cons.injEq, List.cons.injEq, ih, List.length_cons, List.length_cons]
      simp only [true_and]
      omega
  | case2 tl short =>
      cases tl with
      | nil => exact iff_of_true rfl rfl
      | cons attr rest =>
          cases rest with
          | nil =>
              apply iff_of_false
              · intro impossible
                cases impossible
              · intro impossible
                cases impossible
          | cons value rest => exact absurd rfl (short attr value rest)

/-- The loop goes over the pairs. -/
theorem readAttributes_eq_foldlM {σ : Type}
    (setAttribute : Bytes → Bytes → σ → Except Exception σ) (tl : List Bytes) (start : σ) :
    readAttributes setAttribute tl start =
      (pairs tl).foldlM (fun read pair => setAttribute (strToLwr pair.1) pair.2 read) start := by
  induction tl, start using readAttributes.induct with
  | case1 attr value rest read ih =>
      rw [readAttributes, pairs, List.foldlM_cons]
      cases setAttribute (strToLwr attr) value read with
      | error failure => rfl
      | ok next => exact ih next
  | case2 rest read short =>
      rw [readAttributes, pairs]
      · rfl
      · exact short
      · exact short

/-- The value that is listed last for an attribute, whose name may have capitals. -/
def lastValue (attr : Bytes) (listed : List (Bytes × Bytes)) : Option Bytes :=
  lastWritten (fun pair => if strToLwr pair.1 = attr then some pair.2 else none) listed

/-- Whether a flag is listed. -/
def Flagged (flag : Bytes) (listed : List (Bytes × Bytes)) : Prop :=
  ∃ pair ∈ listed, strToLwr pair.1 = ascii "is" ∧ pair.2 = flag

/-- The tokens of a line, none of which is empty. -/
structure Tokens where
  tl : List Bytes
  nonempty : ∀ w ∈ tl, w ≠ []

theorem nonempty_of_lastValue {attr value : Bytes} {listed : List (Bytes × Bytes)}
    (nonempty : ∀ w ∈ unpaired listed, w ≠ []) (last : lastValue attr listed = some value) :
    value ≠ [] := by
  obtain ⟨pair, member, written⟩ := List.mem_filterMap.mp (List.mem_of_getLast? last)
  split at written
  · rw [← Option.some.inj written]
    apply nonempty
    exact List.mem_flatMap.mpr ⟨pair, member, List.mem_cons_of_mem _ List.mem_cons_self⟩
  · cases written

/-! ### Tables -/

def Table.KnownAttribute (pair : Bytes × Bytes) : Prop :=
  strToLwr pair.1 = ascii "alias" ∨ strToLwr pair.1 = ascii "filebase"

/-- The tokens behind the name are attributes with values, and the table has the last
value of each, or its name. -/
structure Table.Declares (made : Table) (rest : List Bytes) (listed : List (Bytes × Bytes)) :
    Prop where
  complete : rest = unpaired listed
  known : ∀ pair ∈ listed, KnownAttribute pair
  aliasName : made.aliasName = (lastValue (ascii "alias") listed).getD made.name
  filebase : made.filebase = (lastValue (ascii "filebase") listed).getD made.name

/-- What the parser accepts declares what it makes of it. -/
def Table.ParsesRight (tokens : Tokens) (subdirective : Bool) (file : File) : Prop :=
  ∀ made, Table.parse tokens.tl subdirective file = .ok made →
    ∃ directive rest listed,
      tokens.tl = directive :: made.name :: rest ∧ made.Declares rest listed

/-- There is a name, in a line that is not indented, and no complete pair has an
attribute that is not known. -/
structure Table.Taken (tl : List Bytes) (subdirective : Bool) : Prop where
  named : 2 ≤ tl.length
  topLevel : subdirective = false
  known : ∀ pair ∈ pairs (tl.drop 2), KnownAttribute pair

section Table

variable {name : Bytes} {file : File}

theorem Table.setAttribute_ok_iff (read : Bytes × Bytes) (pair : Bytes × Bytes) :
    (∃ next, Table.setAttribute name file (strToLwr pair.1) pair.2 read = .ok next) ↔
      KnownAttribute pair := by
  obtain ⟨aliasName, filebase⟩ := read
  rw [Table.setAttribute, KnownAttribute]
  by_cases isAlias : strToLwr pair.1 = ascii "alias"
  · rw [if_pos isAlias]
    exact iff_of_true ⟨_, rfl⟩ (Or.inl isAlias)
  · rw [if_neg isAlias, or_iff_right isAlias]
    by_cases isFilebase : strToLwr pair.1 = ascii "filebase"
    · rw [if_pos isFilebase]
      exact iff_of_true ⟨_, rfl⟩ isFilebase
    · rw [if_neg isFilebase]
      apply iff_of_false ?_ isFilebase
      intro given
      obtain ⟨next, impossible⟩ := given
      cases impossible

/-- Each attribute is written by its own pairs. -/
theorem Table.setAttribute_writes {read next : Bytes × Bytes} {pair : Bytes × Bytes}
    (changed : Table.setAttribute name file (strToLwr pair.1) pair.2 read = .ok next) :
    next.1 = (if strToLwr pair.1 = ascii "alias" then some pair.2 else none).getD read.1 ∧
      next.2 = (if strToLwr pair.1 = ascii "filebase" then some pair.2 else none).getD read.2 := by
  have different : ascii "alias" ≠ ascii "filebase" := by decide
  obtain ⟨aliasName, filebase⟩ := read
  rw [Table.setAttribute] at changed
  by_cases isAlias : strToLwr pair.1 = ascii "alias"
  · rw [if_pos isAlias] at changed
    cases changed
    rw [if_pos isAlias, isAlias, if_neg different]
    exact ⟨rfl, rfl⟩
  · rw [if_neg isAlias] at changed
    by_cases isFilebase : strToLwr pair.1 = ascii "filebase"
    · rw [if_pos isFilebase] at changed
      cases changed
      rw [if_neg isAlias, if_pos isFilebase]
      exact ⟨rfl, rfl⟩
    · rw [if_neg isFilebase] at changed
      cases changed

theorem Table.readAttributes_last {rest : List Bytes} {last : Bytes × Bytes}
    (read : readAttributes (Table.setAttribute name file) rest ([], []) = .ok last) :
    last.1 = (lastValue (ascii "alias") (pairs rest)).getD [] ∧
      last.2 = (lastValue (ascii "filebase") (pairs rest)).getD [] := by
  rw [readAttributes_eq_foldlM] at read
  constructor
  · refine part_of_foldlM Prod.fst _ ?_ read
    exact fun changed => (Table.setAttribute_writes changed).1
  · refine part_of_foldlM Prod.snd _ ?_ read
    exact fun changed => (Table.setAttribute_writes changed).2

variable (file) in
/-- What is accepted, and what is made of it. A token that is left over is not in a pair. -/
theorem Table.parse_ok_iff (tl : List Bytes) (subdirective : Bool) (made : Table) :
    Table.parse tl subdirective file = .ok made ↔
      Taken tl subdirective ∧ ∃ directive name rest, tl = directive :: name :: rest ∧
        made = Table.new name ((lastValue (ascii "alias") (pairs rest)).getD [])
          ((lastValue (ascii "filebase") (pairs rest)).getD []) := by
  unfold Table.parse
  split
  next directive name rest =>
    have named : 2 ≤ (directive :: name :: rest).length := Nat.le_add_left 2 rest.length
    cases subdirective with
    | true =>
        apply iff_of_false error_ne_ok
        intro given
        obtain ⟨taken, -⟩ := given
        cases taken.topLevel
    | false =>
        rw [if_neg Bool.false_ne_true]
        have accepted := exists_foldlM_iff
          (fun read pair => Table.setAttribute name file (strToLwr pair.1) pair.2 read)
          Table.setAttribute_ok_iff (pairs rest) ([], [])
        rw [← readAttributes_eq_foldlM] at accepted
        constructor
        · intro parsed
          obtain ⟨last, read, returned⟩ := exists_of_bind_ok parsed
          obtain ⟨isAlias, isFilebase⟩ := Table.readAttributes_last read
          refine ⟨⟨named, rfl, accepted.mp ⟨last, read⟩⟩, directive, name, rest, rfl, ?_⟩
          rw [← isAlias, ← isFilebase]
          exact (Except.ok.inj returned).symm
        · intro given
          obtain ⟨taken, _, _, _, same, rfl⟩ := given
          cases same
          obtain ⟨last, read⟩ := accepted.mpr taken.known
          obtain ⟨isAlias, isFilebase⟩ := Table.readAttributes_last read
          rw [read, ← isAlias, ← isFilebase]
          rfl
  next short =>
    apply iff_of_false error_ne_ok
    intro given
    obtain ⟨-, directive, name, rest, rfl, -⟩ := given
    exact short directive name rest rfl

theorem exists_name {tl : List Bytes} (named : 2 ≤ tl.length) :
    ∃ directive name rest, tl = directive :: name :: rest := by
  cases tl with
  | nil => cases named
  | cons directive tl =>
      cases tl with
      | nil => exact absurd named (Nat.lt_irrefl 1)
      | cons name rest => exact ⟨directive, name, rest, rfl⟩

theorem length_even_iff (directive name : Bytes) (rest : List Bytes) :
    (directive :: name :: rest).length % 2 = 0 ↔ unpaired (pairs rest) = rest := by
  rw [unpaired_pairs_iff, List.length_cons, List.length_cons]
  omega

/-- A value that is listed is not empty, so the name stands only for one that is not. -/
theorem lastValue_or_name {attr : Bytes} {listed : List (Bytes × Bytes)}
    (nonempty : ∀ w ∈ unpaired listed, w ≠ []) :
    (if (lastValue attr listed).getD [] = [] then name else (lastValue attr listed).getD []) =
      (lastValue attr listed).getD name := by
  cases last : lastValue attr listed with
  | none => exact if_pos rfl
  | some value => exact if_neg (nonempty_of_lastValue nonempty last)

theorem Table.parsesRight_iff (tokens : Tokens) (subdirective : Bool) (file : File) :
    Table.ParsesRight tokens subdirective file ↔
      (Taken tokens.tl subdirective → tokens.tl.length % 2 = 0) := by
  constructor
  · intro right taken
    obtain ⟨directive, name, rest, same⟩ := exists_name taken.named
    have parsed := (Table.parse_ok_iff file tokens.tl subdirective _).mpr
      ⟨taken, directive, name, rest, same, rfl⟩
    obtain ⟨_, _, listed, split_, declares⟩ := right _ parsed
    rw [split_, length_even_iff, declares.complete, pairs_unpaired]
  · intro even made parsed
    obtain ⟨taken, directive, name, rest, same, rfl⟩ :=
      (Table.parse_ok_iff file tokens.tl subdirective made).mp parsed
    have complete := even taken
    rw [same, length_even_iff] at complete
    have nonempty : ∀ w ∈ unpaired (pairs rest), w ≠ [] := by
      intro w member
      apply tokens.nonempty
      rw [same, ← complete]
      exact List.mem_cons_of_mem _ (List.mem_cons_of_mem _ member)
    refine ⟨directive, rest, pairs rest, same, complete.symm, ?_, ?_, ?_⟩
    · have known := taken.known
      rw [same] at known
      exact known
    · exact lastValue_or_name nonempty
    · exact lastValue_or_name nonempty

end Table

/-! ### Fields -/

/-- The flags with what they set. -/
def flags : List (Bytes × (FieldAttributes → Bool)) :=
  [(ascii "autoinc", FieldAttributes.isAutoinc), (ascii "key", FieldAttributes.isKey),
    (ascii "null", FieldAttributes.isNull), (ascii "unsigned", FieldAttributes.isUnsigned)]

def Field.KnownAttribute (pair : Bytes × Bytes) : Prop :=
  strToLwr pair.1 = ascii "alias" ∨ strToLwr pair.1 = ascii "type" ∨
    strToLwr pair.1 = ascii "is" ∧ pair.2 ∈ flags.map Prod.fst

/-- The tokens behind the name are attributes with values. The field has the last type and
the last alias, if there is one, and the flags that are listed. -/
structure Field.Declares (made : Field) (rest : List Bytes) (listed : List (Bytes × Bytes)) :
    Prop where
  complete : rest = unpaired listed
  known : ∀ pair ∈ listed, KnownAttribute pair
  aliasName : made.aliasName = (lastValue (ascii "alias") listed).getD []
  type : made.type = ((lastValue (ascii "type") listed).map TypeValue.ofText).getD .string
  isAutoinc : made.isAutoinc = true ↔ Flagged (ascii "autoinc") listed
  isKey : made.isKey = true ↔ Flagged (ascii "key") listed
  isNull : made.isNull = true ↔ Flagged (ascii "null") listed
  isUnsigned : made.isUnsigned = true ↔ Flagged (ascii "unsigned") listed

def Field.ParsesRight (tokens : Tokens) (subdirective : Bool) (file : File) : Prop :=
  ∀ made, Field.parse tokens.tl subdirective file = .ok made →
    ∃ directive rest listed,
      tokens.tl = directive :: made.name :: rest ∧ made.Declares rest listed

/-- There is a name, in a line that is indented, and no complete pair has an attribute that
is not known. -/
structure Field.Taken (tl : List Bytes) (subdirective : Bool) : Prop where
  named : 2 ≤ tl.length
  indented : subdirective = true
  known : ∀ pair ∈ pairs (tl.drop 2), KnownAttribute pair

section Field

variable {name : Bytes} {file : File}

/-- What a pair that is not refused sets. -/
inductive Field.Sets (pair : Bytes × Bytes) (read : FieldAttributes) : FieldAttributes → Prop
  | aliasName (attr : strToLwr pair.1 = ascii "alias") :
      Sets pair read { read with aliasName := pair.2 }
  | type (attr : strToLwr pair.1 = ascii "type") : Sets pair read { read with type := pair.2 }
  | isAutoinc (attr : strToLwr pair.1 = ascii "is") (flag : pair.2 = ascii "autoinc") :
      Sets pair read { read with isAutoinc := true }
  | isKey (attr : strToLwr pair.1 = ascii "is") (flag : pair.2 = ascii "key") :
      Sets pair read { read with isKey := true }
  | isNull (attr : strToLwr pair.1 = ascii "is") (flag : pair.2 = ascii "null") :
      Sets pair read { read with isNull := true }
  | isUnsigned (attr : strToLwr pair.1 = ascii "is") (flag : pair.2 = ascii "unsigned") :
      Sets pair read { read with isUnsigned := true }

theorem Field.sets_of_setAttribute {read next : FieldAttributes} {pair : Bytes × Bytes}
    (changed : Field.setAttribute name file (strToLwr pair.1) pair.2 read = .ok next) :
    Sets pair read next := by
  unfold Field.setAttribute at changed
  split at changed
  next attr =>
    cases changed
    exact .aliasName attr
  next =>
    split at changed
    next attr =>
      split at changed
      next flag =>
        cases changed
        exact .isAutoinc attr flag
      next =>
        split at changed
        next flag =>
          cases changed
          exact .isKey attr flag
        next =>
          split at changed
          next flag =>
            cases changed
            exact .isNull attr flag
          next =>
            split at changed
            next flag =>
              cases changed
              exact .isUnsigned attr flag
            next => cases changed
    next =>
      split at changed
      next attr =>
        cases changed
        exact .type attr
      next => cases changed

theorem Field.setAttribute_ok_iff (read : FieldAttributes) (pair : Bytes × Bytes) :
    (∃ next, Field.setAttribute name file (strToLwr pair.1) pair.2 read = .ok next) ↔
      KnownAttribute pair := by
  constructor
  · intro given
    obtain ⟨next, changed⟩ := given
    cases Field.sets_of_setAttribute changed with
    | aliasName attr => exact Or.inl attr
    | type attr => exact Or.inr (Or.inl attr)
    | isAutoinc attr flag => exact Or.inr (Or.inr ⟨attr, by rw [flag]; decide⟩)
    | isKey attr flag => exact Or.inr (Or.inr ⟨attr, by rw [flag]; decide⟩)
    | isNull attr flag => exact Or.inr (Or.inr ⟨attr, by rw [flag]; decide⟩)
    | isUnsigned attr flag => exact Or.inr (Or.inr ⟨attr, by rw [flag]; decide⟩)
  · intro given
    rcases given with attr | attr | ⟨attr, member⟩
    · rw [Field.setAttribute, if_pos attr]
      exact ⟨_, rfl⟩
    · rw [attr]
      exact ⟨{ read with type := pair.2 }, rfl⟩
    · rw [attr]
      simp only [flags, List.map_cons, List.map_nil, List.mem_cons, List.not_mem_nil,
        or_false] at member
      rcases member with flag | flag | flag | flag
      · exact ⟨{ read with isAutoinc := true }, by rw [flag]; rfl⟩
      · exact ⟨{ read with isKey := true }, by rw [flag]; rfl⟩
      · exact ⟨{ read with isNull := true }, by rw [flag]; rfl⟩
      · exact ⟨{ read with isUnsigned := true }, by rw [flag]; rfl⟩

/-- Each part of the attributes is written by its own pairs. -/
theorem Field.setAttribute_writes {read next : FieldAttributes} {pair : Bytes × Bytes}
    (changed : Field.setAttribute name file (strToLwr pair.1) pair.2 read = .ok next) :
    next.aliasName =
        (if strToLwr pair.1 = ascii "alias" then some pair.2 else none).getD read.aliasName ∧
      next.type = (if strToLwr pair.1 = ascii "type" then some pair.2 else none).getD read.type ∧
      ∀ flag ∈ flags, flag.2 next =
        (if strToLwr pair.1 = ascii "is" ∧ pair.2 = flag.1 then some true
          else none).getD (flag.2 read) := by
  have aliasIs : ascii "alias" ≠ ascii "is" := by decide
  have aliasType : ascii "alias" ≠ ascii "type" := by decide
  have typeIs : ascii "type" ≠ ascii "is" := by decide
  cases Field.sets_of_setAttribute changed with
  | aliasName attr => simp [flags, attr, aliasIs, aliasType]
  | type attr => simp [flags, attr, aliasType.symm, typeIs]
  | isAutoinc attr flag => simp [flags, attr, flag, ascii]
  | isKey attr flag => simp [flags, attr, flag, ascii]
  | isNull attr flag => simp [flags, attr, flag, ascii]
  | isUnsigned attr flag => simp [flags, attr, flag, ascii]

theorem Field.readAttributes_last {rest : List Bytes} {last : FieldAttributes}
    (read : readAttributes (Field.setAttribute name file) rest .none = .ok last) :
    last.aliasName = (lastValue (ascii "alias") (pairs rest)).getD [] ∧
      last.type = (lastValue (ascii "type") (pairs rest)).getD [] ∧
      ∀ flag ∈ flags, flag.2 last = true ↔ Flagged flag.1 (pairs rest) := by
  rw [readAttributes_eq_foldlM] at read
  refine ⟨?_, ?_, ?_⟩
  · refine part_of_foldlM FieldAttributes.aliasName _ ?_ read
    exact fun changed => (Field.setAttribute_writes changed).1
  · refine part_of_foldlM FieldAttributes.type _ ?_ read
    exact fun changed => (Field.setAttribute_writes changed).2.1
  · intro flag member
    have initially : flag.2 .none = false := by
      simp only [flags, List.mem_cons, List.not_mem_nil, or_false] at member
      rcases member with rfl | rfl | rfl | rfl <;> rfl
    have written := part_of_foldlM flag.2
      (fun pair => if strToLwr pair.1 = ascii "is" ∧ pair.2 = flag.1 then some true else none)
      (fun changed => (Field.setAttribute_writes changed).2.2 flag member) read
    rw [written, initially]
    exact lastWritten_flag (fun pair => strToLwr pair.1 = ascii "is" ∧ pair.2 = flag.1) (pairs rest)

variable (file) in
theorem Field.parse_ok_iff (tl : List Bytes) (subdirective : Bool) (made : Field) :
    Field.parse tl subdirective file = .ok made ↔
      Taken tl subdirective ∧ ∃ directive rest read, tl = directive :: made.name :: rest ∧
        readAttributes (Field.setAttribute made.name file) rest .none = .ok read ∧
        made = { made with
          type := .ofText read.type
          isAutoinc := read.isAutoinc
          isKey := read.isKey
          isNull := read.isNull
          isUnsigned := read.isUnsigned
          aliasName := read.aliasName } := by
  unfold Field.parse
  split
  next directive name rest =>
    have named : 2 ≤ (directive :: name :: rest).length := Nat.le_add_left 2 rest.length
    cases subdirective with
    | false =>
        apply iff_of_false error_ne_ok
        intro given
        obtain ⟨taken, -⟩ := given
        cases taken.indented
    | true =>
        rw [Bool.not_true, if_neg Bool.false_ne_true]
        have accepted := exists_foldlM_iff
          (fun read pair => Field.setAttribute name file (strToLwr pair.1) pair.2 read)
          Field.setAttribute_ok_iff (pairs rest) .none
        rw [← readAttributes_eq_foldlM] at accepted
        constructor
        · intro parsed
          obtain ⟨last, read, returned⟩ := exists_of_bind_ok parsed
          cases returned
          exact ⟨⟨named, rfl, accepted.mp ⟨last, read⟩⟩, directive, rest, last, rfl, read, rfl⟩
        · intro given
          obtain ⟨-, _, _, last, same, read, made_eq⟩ := given
          cases same
          rw [read, made_eq]
          rfl
  next short =>
    apply iff_of_false error_ne_ok
    intro given
    obtain ⟨-, directive, rest, read, rfl, -⟩ := given
    exact short directive made.name rest rfl

theorem Field.exists_parse_ok {tl : List Bytes} {subdirective : Bool}
    (taken : Taken tl subdirective) (file : File) :
    ∃ made, Field.parse tl subdirective file = .ok made := by
  obtain ⟨directive, name, rest, rfl⟩ := exists_name taken.named
  obtain ⟨last, read⟩ := (exists_foldlM_iff
    (fun read pair => Field.setAttribute name file (strToLwr pair.1) pair.2 read)
    Field.setAttribute_ok_iff (pairs rest) .none).mpr taken.known
  rw [← readAttributes_eq_foldlM] at read
  let made : Field := ⟨name, .ofText last.type, last.isAutoinc, last.isKey, last.isNull,
    last.isUnsigned, last.aliasName⟩
  exact ⟨made, (Field.parse_ok_iff file _ _ made).mpr
    ⟨taken, directive, rest, last, rfl, read, rfl⟩⟩

theorem ofText_getD (type : Option Bytes) :
    TypeValue.ofText (type.getD []) = (type.map TypeValue.ofText).getD .string := by
  cases type with
  | none => rfl
  | some text => rfl

theorem Field.parsesRight_iff (tokens : Tokens) (subdirective : Bool) (file : File) :
    Field.ParsesRight tokens subdirective file ↔
      (Taken tokens.tl subdirective → tokens.tl.length % 2 = 0) := by
  constructor
  · intro right taken
    obtain ⟨made, parsed⟩ := Field.exists_parse_ok taken file
    obtain ⟨_, _, listed, split_, declares⟩ := right made parsed
    rw [split_, length_even_iff, declares.complete, pairs_unpaired]
  · intro even made parsed
    obtain ⟨taken, directive, rest, last, same, read, made_eq⟩ :=
      (Field.parse_ok_iff file tokens.tl subdirective made).mp parsed
    have complete := even taken
    rw [same, length_even_iff] at complete
    obtain ⟨isAlias, isType, raised⟩ := Field.readAttributes_last read
    refine ⟨directive, rest, pairs rest, same, complete.symm, ?_, ?_, ?_, ?_, ?_, ?_, ?_⟩
    · have known := taken.known
      rw [same] at known
      exact known
    · rw [made_eq, ← isAlias]
    · rw [made_eq, ← ofText_getD, ← isType]
    · rw [made_eq]
      exact raised (ascii "autoinc", FieldAttributes.isAutoinc) (by simp [flags])
    · rw [made_eq]
      exact raised (ascii "key", FieldAttributes.isKey) (by simp [flags])
    · rw [made_eq]
      exact raised (ascii "null", FieldAttributes.isNull) (by simp [flags])
    · rw [made_eq]
      exact raised (ascii "unsigned", FieldAttributes.isUnsigned) (by simp [flags])

end Field

/-- Both directives: what is accepted is declared in full unless a token is left over. -/
theorem attributes_right_iff (tokens : Tokens) (subdirective : Bool) (file : File) :
    (Table.ParsesRight tokens subdirective file ↔
        (Table.Taken tokens.tl subdirective → tokens.tl.length % 2 = 0)) ∧
      (Field.ParsesRight tokens subdirective file ↔
        (Field.Taken tokens.tl subdirective → tokens.tl.length % 2 = 0)) :=
  ⟨Table.parsesRight_iff tokens subdirective file, Field.parsesRight_iff tokens subdirective file⟩

/-- An alias without its value, and an `is` without its flag. -/
theorem left_over_unnoticed :
    let stock : Tokens := ⟨[ascii "table", ascii "stock", ascii "alias"], by decide⟩
    let price : Tokens := ⟨[ascii "field", ascii "price", ascii "is"], by decide⟩
    ¬ Table.ParsesRight stock false ⟨ascii "stock.ssqls", 2⟩ ∧
      ¬ Field.ParsesRight price true ⟨ascii "stock.ssqls", 3⟩ := by
  intro stock price
  constructor
  · intro right
    have even := (Table.parsesRight_iff stock false _).mp right ⟨by decide, rfl, nofun⟩
    revert even
    decide
  · intro right
    have even := (Field.parsesRight_iff price true _).mp right ⟨by decide, rfl, nofun⟩
    revert even
    decide

end LibTabula.ParseV2
