/-
Defaults by name.

The parser records a position for each name that it reads, and nothing ever takes
a name out of the record. A name of the current template stands for the position
declared with it last. A name of an earlier template stands for its position there,
and one that was never declared for position 0.
-/

import LibTabula.TemplateHistory

set_option autoImplicit false

namespace LibTabula

open Foundation

namespace Query

def noParent : Failure := .objectNotInitialized "SQLQueryParms object has no parent!"

/-- `template_defaults[str]` where the list is tied to its own query, if to any: the position
that is referred to. `std::map::operator []` inserts 0 for a name it has not got. -/
def namedPosition (str : Bytes) : EStateM Failure Query Nat := do
  let q ← get
  if q.templateDefaults.bound = false then throw noParent
  let n := (q.parsedNums str).getD 0
  set { q with
    parsedNums := fun other => if other = str then some n else q.parsedNums other
    templateDefaults := q.templateDefaults.ensure n.toNat }
  return n.toNat

/-- `template_defaults[str] = value`. -/
def setNamed (str : Bytes) (value : SQLTypeAdapter) : EStateM Failure Query Unit := do
  let n ← namedPosition str
  modify fun q =>
    { q with
      templateDefaults :=
        { q.templateDefaults with elems := q.templateDefaults.elems.set n value.copy } }

/-- The placeholders that a text has for the parser. -/
def placeholders (s : Bytes) : List Placeholder :=
  match s with
  | [] => []
  | c :: s =>
      if c = 0 then []
      else if c = byte '%' then
        if s.head? = some (byte '%') then placeholders s.tail
        else if s.head?.any isdigit then
          readPlaceholder s :: placeholders (readPlaceholder s).rest
        else placeholders s
      else placeholders s
termination_by s.length
decreasing_by
  · simp only [List.length_tail, List.length_cons]
    omega
  · have shorter := readPlaceholder_length s
    simp only [List.length_cons]
    omega
  · exact Nat.lt_succ_self s.length
  · exact Nat.lt_succ_self s.length

/-- The names that a placeholder declares, which is at most one. -/
def Placeholder.declared (parameter : Placeholder) : List (Bytes × Int) :=
  (parameter.name.map fun name => (name, parameter.num)).toList

/-- The names in a text, each with the position that it is declared for. -/
def declarations (s : Bytes) : List (Bytes × Int) := (placeholders s).flatMap Placeholder.declared

/-- What is recorded after some declarations. -/
def recorded (nums : Bytes → Option Int) (declared : List (Bytes × Int)) : Bytes → Option Int :=
  declared.foldl
    (fun nums declaration => fun other =>
      if other = declaration.1 then some declaration.2 else nums other) nums

/-- The last declaration of a name counts. -/
theorem recorded_spec (declared : List (Bytes × Int)) (nums : Bytes → Option Int) (name : Bytes) :
    (∃ n, (name, n) ∈ declared ∧ recorded nums declared name = some n) ∨
      (∀ n, (name, n) ∉ declared) ∧ recorded nums declared name = nums name := by
  induction declared generalizing nums with
  | nil => exact Or.inr ⟨fun _ => List.not_mem_nil, rfl⟩
  | cons first later ih =>
      rcases ih (fun other => if other = first.1 then some first.2 else nums other) with
        ⟨n, member, found⟩ | ⟨none, kept⟩
      · exact Or.inl ⟨n, List.mem_cons_of_mem first member, found⟩
      · by_cases same : name = first.1
        · refine Or.inl ⟨first.2, ?_, ?_⟩
          · rw [same]
            exact List.mem_cons_self
          · exact kept.trans (if_pos same)
        · refine Or.inr ⟨?_, kept.trans (if_neg same)⟩
          intro n member
          rcases List.mem_cons.mp member with head | member
          · exact same (congrArg Prod.fst head)
          · exact none n member

theorem saveParameter_run {str : Bytes} {parameter : Placeholder} {q middle : Query}
    (saved : (saveParameter str parameter).run q = .ok () middle) :
    middle.parsedNums = recorded q.parsedNums parameter.declared ∧
      ∀ declaration ∈ parameter.declared, 0 ≤ parameter.num ∧ declaration.2 = parameter.num := by
  unfold saveParameter at saved
  rw [Placeholder.declared]
  cases named : parameter.name with
  | none =>
      rw [named] at saved
      cases saved
      exact ⟨rfl, fun _ member => by cases member⟩
  | some name =>
      simp only [named, declareName] at saved
      by_cases negative : parameter.num < 0
      · rw [if_pos negative] at saved
        cases saved
      · rw [if_neg negative] at saved
        cases saved
        refine ⟨rfl, ?_⟩
        intro declaration member
        rw [List.mem_singleton.mp member]
        exact ⟨Int.not_lt.mp negative, rfl⟩

/-- What the loop records, and that each declared position has an element. -/
theorem parseLoop_run {s str text : Bytes} {q after : Query}
    (parsed : (parseLoop s str).run q = .ok text after) :
    after.parsedNums = recorded q.parsedNums (declarations s) ∧
      (∀ elem ∈ q.parseElems, elem ∈ after.parseElems) ∧
      ∀ declaration ∈ declarations s, 0 ≤ declaration.2 ∧
        ∃ elem ∈ after.parseElems, elem.num = declaration.2 := by
  induction s, str using parseLoop.induct generalizing q with
  | case1 str =>
      rw [parseLoop] at parsed
      cases parsed
      rw [declarations, placeholders]
      refine ⟨rfl, fun _ member => member, ?_⟩
      intro declaration member
      cases member
  | case2 str s =>
      rw [parseLoop, if_pos rfl] at parsed
      cases parsed
      rw [declarations, placeholders, if_pos rfl]
      refine ⟨rfl, fun _ member => member, ?_⟩
      intro declaration member
      cases member
  | case3 str s doubled notNul ih =>
      rw [parseLoop, if_neg notNul, if_pos rfl, if_pos doubled] at parsed
      rw [declarations, placeholders, if_neg notNul, if_pos rfl, if_pos doubled]
      exact ih parsed
  | case4 str s single digit notNul ih =>
      rw [parseLoop, if_neg notNul, if_pos rfl, if_neg single, if_pos digit] at parsed
      rw [declarations, placeholders, if_neg notNul, if_pos rfl, if_neg single, if_pos digit]
      obtain ⟨_, middle, saved, continued⟩ := exists_of_run_bind_ok parsed
      obtain ⟨nums, nonneg⟩ := saveParameter_run saved
      have elems := saveParameter_elems saved
      obtain ⟨numsAfter, kept, declared⟩ := ih continued
      rw [List.flatMap_cons]
      refine ⟨?_, ?_, ?_⟩
      · rw [numsAfter, nums, recorded, recorded, recorded, List.foldl_append]
        rfl
      · intro elem member
        apply kept
        rw [elems]
        exact List.mem_append_left _ member
      · intro declaration member
        rcases List.mem_append.mp member with here | later
        · obtain ⟨position, same⟩ := nonneg declaration here
          rw [same]
          have added : { before := str
                         option := (readPlaceholder s).option
                         num := (readPlaceholder s).num } ∈ middle.parseElems := by
            rw [elems]
            exact List.mem_append_right _ List.mem_cons_self
          exact ⟨position, _, kept _ added, rfl⟩
        · exact declared declaration later
  | case5 str s single noDigit notNul ih =>
      rw [parseLoop, if_neg notNul, if_pos rfl, if_neg single, if_neg noDigit] at parsed
      rw [declarations, placeholders, if_neg notNul, if_pos rfl, if_neg single, if_neg noDigit]
      exact ih parsed
  | case6 str c s notNul notPercent ih =>
      rw [parseLoop_literal notNul notPercent] at parsed
      rw [declarations, placeholders, if_neg notNul, if_neg notPercent]
      exact ih parsed

theorem parse_run {q after : Query} (parsed : parse.run q = .ok () after) :
    after.parsedNums = recorded q.parsedNums (declarations q.sbuffer) ∧
      (∀ elem ∈ q.parseElems, elem ∈ after.parseElems) ∧
      ∀ declaration ∈ declarations q.sbuffer, 0 ≤ declaration.2 ∧
        ∃ elem ∈ after.parseElems, elem.num = declaration.2 := by
  change (parseLoop q.sbuffer [] >>= fun str =>
    pushElem { before := str, option := byte ' ', num := -1 }).run q = .ok () after at parsed
  obtain ⟨str, middle, looped, pushed⟩ := exists_of_run_bind_ok parsed
  cases pushed
  obtain ⟨nums, kept, declared⟩ := parseLoop_run looped
  refine ⟨nums, fun elem member => List.mem_append_left _ (kept elem member), ?_⟩
  intro declaration member
  obtain ⟨position, elem, found, num⟩ := declared declaration member
  exact ⟨position, elem, List.mem_append_left _ found, num⟩

theorem saveParameter_error {str : Bytes} {parameter : Placeholder} {q after : Query}
    {failure : Failure} (failed : (saveParameter str parameter).run q = .error failure after) :
    failure = .outOfBounds := by
  unfold saveParameter at failed
  cases named : parameter.name with
  | none =>
      rw [named] at failed
      cases failed
  | some name =>
      simp only [named, declareName] at failed
      by_cases negative : parameter.num < 0
      · rw [if_pos negative] at failed
        cases failed
        rfl
      · rw [if_neg negative] at failed
        cases failed

theorem parseLoop_error {s str : Bytes} {q after : Query} {failure : Failure}
    (failed : (parseLoop s str).run q = .error failure after) : failure = .outOfBounds := by
  have saving := parseLoop_saving s str
  generalize parseLoop s str = loop at saving failed
  induction saving generalizing q with
  | returns str => cases failed
  | saves str s _rest ih =>
      cases saved : (saveParameter str (readPlaceholder s)).run q with
      | ok value middle =>
          rw [run_bind_of_ok saved] at failed
          exact ih failed
      | error other middle =>
          rw [run_bind_of_error saved] at failed
          cases failed
          exact saveParameter_error saved

theorem parse_error {q after : Query} {failure : Failure}
    (failed : parse.run q = .error failure after) : failure = .outOfBounds := by
  change (parseLoop q.sbuffer [] >>= fun str =>
    pushElem { before := str, option := byte ' ', num := -1 }).run q =
      .error failure after at failed
  cases looped : (parseLoop q.sbuffer []).run q with
  | ok str middle =>
      rw [run_bind_of_ok looped] at failed
      cases failed
  | error other middle =>
      rw [run_bind_of_error looped] at failed
      cases failed
      exact parseLoop_error looped

/-- Filling in a template changes neither its elements nor the names. -/
theorem preserves_names_str (escape : Bytes → Bytes) (passed : Option SQLQueryParms) :
    Preserves (fun q => (q.parseElems, q.parsedNums, q.templateDefaults.parent))
      (str escape passed) := by
  intro q
  by_cases template : q.parseElems = []
  · rw [str_of_noElems escape template]
    rfl
  · obtain ⟨after, kept, _cells, finished⟩ :=
      Filling.str_run escape { query := q, passed := passed } template
    obtain ⟨text, elems, shape, _length⟩ := kept.query
    have final : ((str escape passed).run q).final = after.query := by
      rw [str_final]
      rcases finished with ⟨text, _filled, ran⟩ | ⟨failure, _failed, ran⟩
      · rw [ran]
        rfl
      · rw [ran]
        rfl
    rw [final, shape]

/-- A query in which a name has been looked up. -/
def named (q : Query) (str : Bytes) : Query :=
  { q with
    parsedNums := fun other =>
      if other = str then some ((q.parsedNums str).getD 0) else q.parsedNums other
    templateDefaults := q.templateDefaults.ensure ((q.parsedNums str).getD 0).toNat }

theorem namedPosition_run (str : Bytes) {q : Query} (bound : q.templateDefaults.bound = true) :
    (namedPosition str).run q = .ok ((q.parsedNums str).getD 0).toNat (q.named str) := by
  simp only [namedPosition, EStateM.run_bind, EStateM.run_get, bound, Bool.true_eq_false, if_false]
  rfl

theorem setNamed_run (str : Bytes) (value : SQLTypeAdapter) {q : Query}
    (bound : q.templateDefaults.bound = true) :
    (setNamed str value).run q = .ok ()
      { q.named str with
        templateDefaults :=
          { (q.named str).templateDefaults with
            elems := (q.named str).templateDefaults.elems.set
              ((q.parsedNums str).getD 0).toNat value.copy } } :=
  run_bind_of_ok (namedPosition_run str bound)

/-! ### Any use of a query -/

end Query

/-- What a program does with a query and its defaults. -/
inductive QueryCall
  | insert (text : Bytes)
  | parse
  | reset
  | setDefault (n : Nat) (value : SQLTypeAdapter)
  | lookUp (name : Bytes)
  | setNamed (name : Bytes) (value : SQLTypeAdapter)
  | str (passed : Option SQLQueryParms)

namespace QueryCall

variable (escape : Bytes → Bytes)

def run : QueryCall → EStateM Failure Query Unit
  | insert text => modify fun q => q.write text
  | parse => Query.parse
  | reset => modify Query.reset
  | setDefault n value => modify fun q => q.setDefault n value
  | lookUp name => do
      let _position ← Query.namedPosition name
  | setNamed name value => Query.setNamed name value
  | str passed => do
      let _text ← Query.str escape passed

/-- What the current template declares after a call. -/
def declares (q : Query) (declared : List (Bytes × Int)) : QueryCall → List (Bytes × Int)
  | parse => declared ++ Query.declarations q.sbuffer
  | reset => []
  | _ => declared

end QueryCall

/-- A query that a program may have made, with the declarations of its template. After the
use of a null pointer or of an index outside a vector nothing is known. -/
inductive Declared (escape : Bytes → Bytes) (self : QueryId) :
    Query → List (Bytes × Int) → Prop
  | new (te : Bool) (text : Bytes) : Declared escape self (Query.new self te text) []
  | called {q : Query} {declared : List (Bytes × Int)} (call : QueryCall) :
      Declared escape self q declared →
      ((call.run escape).run q).outcome ≠ .error .outOfBounds →
      ((call.run escape).run q).outcome ≠ .error .nullPointer →
      Declared escape self ((call.run escape).run q).final (call.declares q declared)

/-- The record has a declared position for each declared name, and the template has an
element for it. -/
structure Records (q : Query) (declared : List (Bytes × Int)) : Prop where
  bound : q.templateDefaults.bound = true
  nums : ∀ name n, (name, n) ∈ declared →
    ∃ last, q.parsedNums name = some last ∧ (name, last) ∈ declared
  nonneg : ∀ name n, q.parsedNums name = some n → 0 ≤ n
  elems : ∀ declaration ∈ declared, ∃ elem ∈ q.parseElems, elem.num = declaration.2

namespace Records

variable {q after : Query} {declared : List (Bytes × Int)}

theorem of_same (records : Records q declared) (elems : after.parseElems = q.parseElems)
    (nums : after.parsedNums = q.parsedNums)
    (parent : after.templateDefaults.parent = q.templateDefaults.parent) :
    Records after declared where
  bound := by
    rw [SQLQueryParms.bound, parent]
    exact records.bound
  nums := by
    rw [nums]
    exact records.nums
  nonneg := by
    rw [nums]
    exact records.nonneg
  elems := by
    rw [elems]
    exact records.elems

/-- Looking up a name records 0 for it, unless there is a record already. -/
theorem of_named (records : Records q declared) (str : Bytes) :
    Records (q.named str) declared where
  bound := by
    rw [SQLQueryParms.bound, Query.named, SQLQueryParms.ensure_parent]
    exact records.bound
  nums name n member := by
    obtain ⟨last, found, there⟩ := records.nums name n member
    refine ⟨last, ?_, there⟩
    by_cases same : name = str
    · subst same
      simp only [Query.named, if_true, found, Option.getD_some]
    · simp only [Query.named, if_neg same, found]
  nonneg name n found := by
    simp only [Query.named] at found
    by_cases same : name = str
    · simp only [if_pos same, Option.some.injEq] at found
      cases recorded : q.parsedNums str with
      | none =>
          rw [recorded] at found
          rw [← found]
          exact Int.le_refl 0
      | some last =>
          rw [recorded] at found
          rw [← found]
          exact records.nonneg str last recorded
    · simp only [if_neg same] at found
      exact records.nonneg name n found
  elems := records.elems

theorem of_parse (records : Records q declared) (parsed : Query.parse.run q = .ok () after) :
    Records after (declared ++ Query.declarations q.sbuffer) := by
  obtain ⟨nums, kept, made⟩ := Query.parse_run parsed
  have list : after.templateDefaults = q.templateDefaults := by
    have kept := Query.preserves_parse q
    rwa [parsed] at kept
  constructor
  · rw [list]
    exact records.bound
  · intro name n member
    rcases Query.recorded_spec (Query.declarations q.sbuffer) q.parsedNums name with
      ⟨last, there, found⟩ | ⟨none, found⟩
    · refine ⟨last, ?_, List.mem_append_right _ there⟩
      rw [nums, found]
    · have earlier : (name, n) ∈ declared :=
        (List.mem_append.mp member).resolve_right (none n)
      obtain ⟨last, before, there⟩ := records.nums name n earlier
      refine ⟨last, ?_, List.mem_append_left _ there⟩
      rw [nums, found, before]
  · intro name n found
    rw [nums] at found
    rcases Query.recorded_spec (Query.declarations q.sbuffer) q.parsedNums name with
      ⟨last, there, here⟩ | ⟨_none, here⟩
    · rw [here] at found
      cases found
      exact (made _ there).1
    · rw [here] at found
      exact records.nonneg name n found
  · intro declaration member
    rcases List.mem_append.mp member with earlier | here
    · obtain ⟨elem, found, num⟩ := records.elems declaration earlier
      exact ⟨elem, kept elem found, num⟩
    · exact (made declaration here).2

/-- Each call keeps the record right. -/
theorem call (escape : Bytes → Bytes) (records : Records q declared) (call : QueryCall)
    (defined : ((call.run escape).run q).outcome ≠ .error .outOfBounds) :
    Records ((call.run escape).run q).final (call.declares q declared) := by
  cases call with
  | insert text => exact records.of_same rfl rfl rfl
  | parse =>
      cases parsed : Query.parse.run q with
      | ok value after =>
          simp only [QueryCall.run, parsed, EStateM.Result.final_ok]
          exact records.of_parse parsed
      | error failure after =>
          simp only [QueryCall.run, parsed, Query.parse_error parsed] at defined
          exact absurd rfl defined
  | reset => exact ⟨records.bound, nofun, records.nonneg, nofun⟩
  | setDefault n value => exact records.of_same rfl rfl (SQLQueryParms.assign_parent _ n value)
  | lookUp name =>
      have ran : ((QueryCall.lookUp name).run escape).run q = .ok () (q.named name) :=
        run_bind_of_ok (Query.namedPosition_run name records.bound)
      rw [ran]
      exact records.of_named name
  | setNamed name value =>
      have ran := Query.setNamed_run name value records.bound
      simp only [QueryCall.run, ran]
      exact (records.of_named name).of_same rfl rfl rfl
  | str passed =>
      have kept := (Query.preserves_names_str escape passed).bind
        (fun _text => Preserves.pure PUnit.unit) q
      simp only [Prod.mk.injEq] at kept
      exact records.of_same kept.1 kept.2.1 kept.2.2

end Records

theorem Declared.records {escape : Bytes → Bytes} {self : QueryId} {q : Query}
    {declared : List (Bytes × Int)} (reached : Declared escape self q declared) :
    Records q declared := by
  induction reached with
  | new te text => exact ⟨rfl, nofun, nofun, nofun⟩
  | called call _before defined _used ih => exact ih.call escape call defined

/-! ### What a name refers to -/

namespace Query

/-- A position of the current template. -/
def DeclaresAt (self : Query) (position : Nat) : Prop :=
  ∃ elem ∈ self.parseElems, elem.num = position

/-- The position recorded for a name, 0 without one. -/
def recordedPosition (self : Query) (name : Bytes) : Nat :=
  ((self.parsedNums name).getD 0).toNat

/-- A name of the template refers to a position declared with it, and no other name has to do
with the template's parameters. -/
structure Resolves (q : Query) (names : List (Bytes × Int)) (name : Bytes) : Prop where
  declared : (∃ n, (name, n) ∈ names) →
    ∃ index : Nat, ((namedPosition name).run q).outcome = .ok index ∧
      (name, (index : Int)) ∈ names ∧ q.DeclaresAt index ∧
      ((namedPosition name).run q).final.templateDefaults.elems[index]?.isSome = true
  undeclared : (∀ n, (name, n) ∉ names) →
    (∀ index : Nat, ((namedPosition name).run q).outcome = .ok index → ¬ q.DeclaresAt index) ∧
      ∀ position, q.DeclaresAt position →
        ((namedPosition name).run q).final.templateDefaults.elems[position]? =
            q.templateDefaults.elems[position]? ∧
          ∀ value, ((setNamed name value).run q).final.templateDefaults.elems[position]? =
            q.templateDefaults.elems[position]?

/-- A position apart from the template's, such that referring to it creates no default of the
template and moves none that is marked as processed. -/
structure Apart (q : Query) (n : Nat) : Prop where
  elsewhere : ¬ q.DeclaresAt n
  created : ∀ position, q.templateDefaults.size ≤ position → position < n →
    ¬ q.DeclaresAt position
  moved : q.templateDefaults.size ≤ n →
    q.templateDefaults.Reallocates (n + 1 - q.templateDefaults.size) →
    ∀ position S, q.DeclaresAt position → q.templateDefaults.elems[position]? = some S →
      S.isProcessed = false

end Query

namespace SQLQueryParms

/-- A short list gets empty texts. -/
theorem ensure_created (self : SQLQueryParms) {n position : Nat} (behind : self.size ≤ position)
    (upTo : position ≤ n) :
    (self.ensure n).elems[position]? = some (SQLTypeAdapter.ofString [] false) := by
  have within : position - self.size < n + 1 - self.size := by omega
  rw [ensure_elems, List.getElem?_append_right (by rw [front_length]; exact behind), front_length,
    List.getElem?_replicate_of_lt within]

theorem ensure_beyond (self : SQLQueryParms) {n position : Nat} (behind : self.size ≤ position)
    (past : n < position) : (self.ensure n).elems[position]? = none := by
  rw [ensure_elems, List.getElem?_eq_none_iff, List.length_append, front_length,
    List.length_replicate]
  omega

theorem ensure_front (self : SQLQueryParms) {n position : Nat} (inside : position < self.size) :
    (self.ensure n).elems[position]? =
      if self.size ≤ n ∧ self.Reallocates (n + 1 - self.size) then
        self.elems[position]?.map SQLTypeAdapter.copy
      else self.elems[position]? := by
  rw [ensure_elems, List.getElem?_append_left (by rw [front_length]; exact inside)]
  split_ifs
  · exact List.getElem?_map
  · rfl

end SQLQueryParms

namespace Query

variable {q : Query}

theorem copy_of_raw {S : SQLTypeAdapter} (raw : S.isProcessed = false) : S.copy = S := by
  cases S
  simp only at raw
  rw [raw]
  rfl

/-- Apart from the template, the way to a position leaves the template's defaults. -/
theorem Apart.ensure_eq {n : Nat} (apart : q.Apart n) {position : Nat}
    (declares : q.DeclaresAt position) :
    (q.templateDefaults.ensure n).elems[position]? = q.templateDefaults.elems[position]? := by
  by_cases inside : position < q.templateDefaults.size
  · rw [SQLQueryParms.ensure_front _ inside]
    split_ifs with moves
    · cases there : q.templateDefaults.elems[position]? with
      | none => rfl
      | some S =>
          exact congrArg some
            (copy_of_raw (apart.moved moves.1 moves.2 position S declares there))
    · rfl
  · have behind := Nat.not_lt.mp inside
    have missing : q.templateDefaults.elems[position]? = none :=
      List.getElem?_eq_none_iff.mpr behind
    have past : n < position := by
      rcases Nat.lt_trichotomy position n with before | same | past
      · exact absurd declares (apart.created position behind before)
      · rw [same] at declares
        exact absurd declares apart.elsewhere
      · exact past
    rw [SQLQueryParms.ensure_beyond _ behind past, missing]

theorem apart_of_ensure_eq {n : Nat} (elsewhere : ¬ q.DeclaresAt n)
    (same : ∀ position, q.DeclaresAt position →
      (q.templateDefaults.ensure n).elems[position]? = q.templateDefaults.elems[position]?) :
    q.Apart n where
  elsewhere := elsewhere
  created position behind before declares := by
    have made := same position declares
    rw [SQLQueryParms.ensure_created _ behind (Nat.le_of_lt before)] at made
    have missing : q.templateDefaults.elems[position]? = none :=
      List.getElem?_eq_none_iff.mpr behind
    rw [missing] at made
    cases made
  moved short moves position S declares there := by
    have kept := same position declares
    have inside : position < q.templateDefaults.size :=
      (List.getElem?_eq_some_iff.mp there).1
    rw [SQLQueryParms.ensure_front _ inside, if_pos ⟨short, moves⟩, there] at kept
    have unchanged : S.copy = S := Option.some.inj kept
    rw [← unchanged]
    rfl

end Query

theorem Records.resolves_declared {q : Query} {names : List (Bytes × Int)}
    (records : Records q names) {name : Bytes} (declared : ∃ n, (name, n) ∈ names) :
    q.Resolves names name where
  declared _ := by
    obtain ⟨n, member⟩ := declared
    obtain ⟨last, found, there⟩ := records.nums name n member
    have position : ((q.recordedPosition name : Nat) : Int) = last := by
      rw [Query.recordedPosition, found]
      exact Int.toNat_of_nonneg (records.nonneg name last found)
    refine ⟨q.recordedPosition name, ?_, ?_, ?_, ?_⟩
    · rw [Query.namedPosition_run name records.bound]
      rfl
    · rw [position]
      exact there
    · rw [Query.DeclaresAt, position]
      exact records.elems _ there
    · rw [Query.namedPosition_run name records.bound]
      change ((q.templateDefaults.ensure (q.recordedPosition name)).elems[
        q.recordedPosition name]?).isSome = true
      by_cases inside : q.recordedPosition name < q.templateDefaults.size
      · rw [SQLQueryParms.ensure_front _ inside]
        have there : (q.templateDefaults.elems[q.recordedPosition name]?).isSome = true := by
          rw [List.getElem?_eq_getElem inside]
          rfl
        split_ifs
        · rw [Option.isSome_map]
          exact there
        · exact there
      · rw [SQLQueryParms.ensure_created _ (Nat.not_lt.mp inside) (Nat.le_refl _)]
        rfl
  undeclared none := by
    obtain ⟨n, member⟩ := declared
    exact absurd member (none n)

def namedTemplate : Query := (Query.parse.run (Query.new 0 true (ascii "%0q:what"))).final

theorem namedTemplate_parsed :
    (Query.parse.run (Query.new 0 true (ascii "%0q:what"))).outcome = .ok () := by
  decide +kernel

theorem namedTemplate_declares :
    Query.declarations (ascii "%0q:what") = [(ascii "what", 0)] := by
  decide +kernel

theorem namedTemplate_reached :
    Declared SQLStream.escapeText 0 namedTemplate [(ascii "what", 0)] := by
  have defined : ∀ failure : Failure,
      (Query.parse.run (Query.new 0 true (ascii "%0q:what"))).outcome ≠ .error failure := by
    intro failure
    rw [namedTemplate_parsed]
    exact nofun
  have reached := Declared.called QueryCall.parse
    (.new true (ascii "%0q:what") : Declared SQLStream.escapeText 0 _ [])
    (defined .outOfBounds) (defined .nullPointer)
  have declares : QueryCall.parse.declares (Query.new 0 true (ascii "%0q:what")) [] =
      [(ascii "what", 0)] := namedTemplate_declares
  rwa [declares] at reached

end LibTabula
