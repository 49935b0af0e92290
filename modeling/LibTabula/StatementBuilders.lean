/-
The texts of the statement builders.

`insert` and `replace` build a text from one row or from a range of rows,
`insertfrom` and `replacefrom` send theirs. The six of them carry a copy of the
same code each. The texts are those that go into a stream without a field width.
-/

import LibTabula.InsertPolicies

set_option autoImplicit false

namespace LibTabula

open Foundation

namespace Query

variable {ρ : Type} (rows : SSQLS ρ)

/-- `insert(const T&)`. -/
def insertRow (self : Query) (v : ρ) : Query :=
  (self.reset.write (statementBeginning rows (ascii "INSERT") v)).write
    (rows.valueList v ++ ascii ")")

/-- `replace(const T&)`. -/
def replaceRow (self : Query) (v : ρ) : Query :=
  (self.reset.write (statementBeginning rows (ascii "REPLACE") v)).write
    (rows.valueList v ++ ascii ")")

/-- The loop over what is behind the first row of a range. -/
def writeFurther (self : Query) (rest : List ρ) : Query :=
  rest.foldl (fun query it => query.write (furtherRow rows it)) self

/-- `insert(Iter, Iter)`. -/
def insertRange (self : Query) : List ρ → Query
  | [] => self.reset
  | first :: rest =>
      ((self.reset.write (statementBeginning rows (ascii "INSERT") first)).write
        (rows.valueList first ++ ascii ")")).writeFurther rows rest

/-- How `replace(Iter, Iter)` begins, which does not quote the table. -/
def replaceRangeBeginning (first : ρ) : Bytes :=
  ascii "REPLACE INTO " ++ rows.table first ++ ascii " (" ++ rows.fieldList first ++
    ascii ") VALUES ("

/-- `replace(Iter, Iter)`. -/
def replaceRange (self : Query) : List ρ → Query
  | [] => self.reset
  | first :: rest =>
      ((self.reset.write (replaceRangeBeginning rows first)).write
        (rows.valueList first ++ ascii ")")).writeFurther rows rest

theorem sbuffer_writeFurther (self : Query) (rest : List ρ) :
    (self.writeFurther rows rest).sbuffer =
      self.sbuffer ++ (rest.map (furtherRow rows)).flatten := by
  induction rest generalizing self with
  | nil => exact (List.append_nil _).symm
  | cons it rest ih =>
      rw [writeFurther, List.foldl_cons]
      refine (ih (self.write (furtherRow rows it))).trans ?_
      rw [List.map_cons, List.flatten_cons, ← List.append_assoc]
      rfl

theorem sbuffer_insertRange (self : Query) {items : List ρ} (some : items ≠ []) :
    (self.insertRange rows items).sbuffer = statementText rows (ascii "INSERT") items := by
  cases items with
  | nil => exact absurd rfl some
  | cons first rest =>
      rw [insertRange, sbuffer_writeFurther, statementText]
      rfl

theorem sbuffer_replaceRange (self : Query) (first : ρ) (rest : List ρ) :
    (self.replaceRange rows (first :: rest)).sbuffer =
      replaceRangeBeginning rows first ++ (rows.valueList first ++ ascii ")") ++
        (rest.map (furtherRow rows)).flatten := by
  rw [replaceRange, sbuffer_writeFurther]
  rfl

end Query

/-- A text with its first word, `INSERT`, replaced. -/
def asReplace (text : Bytes) : Bytes := ascii "REPLACE" ++ text.drop (ascii "INSERT").length

section Builders

variable {δ ρ π κ : Type} (rows : SSQLS ρ)

theorem asReplace_statementText {items : List ρ} (some : items ≠ []) :
    asReplace (statementText rows (ascii "INSERT") items) =
      statementText rows (ascii "REPLACE") items := by
  cases items with
  | nil => exact absurd rfl some
  | cons first rest =>
      simp only [asReplace, statementText, statementBeginning, List.append_assoc,
        List.drop_left]

/-- The client's statements of an insertion: one more, with this text. -/
def SendsJust (text : Bytes) (before after : Insertion δ ρ π) : Prop :=
  ∃ ok, after.executed =
    before.executed ++ [{ party := .client, sent := { text := text, ok := ok } }]

/-- With a policy that always admits there is one statement, whatever its driver says. -/
theorem insertRows_sendsJust (driver : DBDriver δ) {policy : InsertPolicy ρ π}
    (admits : ∀ size object state, (policy.canAdd size object state).1 = true)
    (controller : AccessController δ κ) (verb : Bytes) {items : List ρ}
    {self : Insertion δ ρ π} (begins : Begins controller items self) :
    SendsJust (statementText rows verb items) self
      ((insertRows rows driver policy controller verb items).run self).final := by
  obtain ⟨batches, given, inserted⟩ :=
    insertRows_inserted rows driver policy verb controller items self
  obtain ⟨success, worked⟩ := inserted.worked begins
  have allAdmitted : ∀ answer ∈ given, answer.2 = true :=
    inserted.follows.all_true fun state _ item => admits _ item state
  have one : batches = [(items, success)] := worked.of_all_true allAdmitted
  refine ⟨success, ?_⟩
  rw [inserted.executed, one]
  rfl

/-- What the builders have in common, other than `replace(Iter, Iter)`. -/
structure OthersAgree (driver : DBDriver δ) (policy : InsertPolicy ρ π)
    (controller : AccessController δ κ) (items : List ρ) (before : Insertion δ ρ π) : Prop where
  oneRow : ∀ (query : Query) (v : ρ), query.insertRange rows [v] = query.insertRow rows v
  insertfrom : ∀ query : Query, SendsJust (query.insertRange rows items).sbuffer before
    ((insertfrom rows driver policy controller items).run before).final
  replaceRow : ∀ (query : Query) (v : ρ),
    (query.replaceRow rows v).sbuffer = asReplace (query.insertRow rows v).sbuffer
  replacefrom : ∀ query : Query, SendsJust (asReplace (query.insertRange rows items).sbuffer)
    before ((replacefrom rows driver policy controller items).run before).final

structure BuildersAgree (driver : DBDriver δ) (policy : InsertPolicy ρ π)
    (controller : AccessController δ κ) (items : List ρ) (before : Insertion δ ρ π) : Prop
    extends OthersAgree rows driver policy controller items before where
  replaceRange : ∀ query : Query,
    (query.replaceRange rows items).sbuffer = asReplace (query.insertRange rows items).sbuffer

theorem othersAgree (driver : DBDriver δ) {policy : InsertPolicy ρ π}
    (admits : ∀ size object state, (policy.canAdd size object state).1 = true)
    (controller : AccessController δ κ) {items : List ρ} {before : Insertion δ ρ π}
    (begins : Begins controller items before) :
    OthersAgree rows driver policy controller items before where
  oneRow _query _v := rfl
  insertfrom query := by
    rw [query.sbuffer_insertRange rows begins.1]
    exact insertRows_sendsJust rows driver admits controller (ascii "INSERT") begins
  replaceRow query v := by
    have texts := asReplace_statementText rows (List.cons_ne_nil v [])
    rw [statementText_single, statementText_single] at texts
    exact texts.symm
  replacefrom query := by
    rw [query.sbuffer_insertRange rows begins.1, asReplace_statementText rows begins.1]
    exact insertRows_sendsJust rows driver admits controller (ascii "REPLACE") begins

/-- The two quotes are missing. -/
theorem length_replaceRange (query : Query) {items : List ρ} (some : items ≠ []) :
    (query.replaceRange rows items).sbuffer.length + 2 =
      (asReplace (query.insertRange rows items).sbuffer).length := by
  rw [query.sbuffer_insertRange rows some, asReplace_statementText rows some]
  cases items with
  | nil => exact absurd rfl some
  | cons first rest =>
      rw [Query.sbuffer_replaceRange, statementText]
      simp only [Query.replaceRangeBeginning, statementBeginning, List.length_append]
      have quoted : (ascii "REPLACE").length + (ascii " INTO \x60").length +
          (ascii "\x60 (").length = (ascii "REPLACE INTO ").length + (ascii " (").length + 2 := by
        decide
      omega

/-- For every table and every non-empty list of rows the builders disagree, and it is
`replace(Iter, Iter)` that does: with a policy that always admits and an access
controller that can be constructed, the other five agree. -/
theorem builders_disagree (driver : DBDriver δ) (policy : InsertPolicy ρ π)
    (controller : AccessController δ κ) (items : List ρ) (before : Insertion δ ρ π)
    (some : items ≠ []) :
    ¬ BuildersAgree rows driver policy controller items before ∧
      ((∀ size object state, (policy.canAdd size object state).1 = true) →
        Begins controller items before →
        OthersAgree rows driver policy controller items before) := by
  constructor
  · intro agree
    have lengths := length_replaceRange rows before.query some
    rw [agree.replaceRange before.query] at lengths
    omega
  · intro admits begins
    exact othersAgree rows driver admits controller begins

end Builders

def admitAll (ρ : Type) : InsertPolicy ρ Unit where
  canAdd _size _object _state := (true, ())

def orderTable : SSQLS Bytes where
  table _ := ascii "order"
  fieldList _ := ascii "\x60v\x60"
  valueList value := value

theorem builders_disagree_twoRows :
    let controller := Transaction.controller acceptingDriver false (.simple false)
    let items := [ascii "1", ascii "2"]
    ¬ BuildersAgree orderTable acceptingDriver (admitAll Bytes) controller items
        (beforeInsertion ()) ∧
      OthersAgree orderTable acceptingDriver (admitAll Bytes) controller items
        (beforeInsertion ()) := by
  have both := builders_disagree orderTable acceptingDriver (admitAll Bytes)
    (Transaction.controller acceptingDriver false (.simple false)) [ascii "1", ascii "2"]
    (beforeInsertion ()) (by decide)
  exact ⟨both.1, both.2 (fun _ _ _ => rfl)
    ⟨by decide, Transaction.constructs acceptingDriver (.simple false) _⟩⟩

/-- A table whose name has to be quoted. -/
theorem order_not_quoted :
    let query := Query.new 0 false []
    let items := [ascii "1", ascii "2"]
    (query.insertRange orderTable items).sbuffer =
        ascii "INSERT INTO \x60order\x60 (\x60v\x60) VALUES (1),(2)" ∧
      (query.replaceRange orderTable items).sbuffer =
        ascii "REPLACE INTO order (\x60v\x60) VALUES (1),(2)" ∧
      ¬ BuildersAgree orderTable acceptingDriver (admitAll Bytes)
        (Transaction.controller acceptingDriver false (.simple false)) items
        (beforeInsertion ()) := by
  refine ⟨by decide +kernel, by decide +kernel, fun agree => ?_⟩
  exact absurd (agree.replaceRange (Query.new 0 false [])) (by decide +kernel)

end LibTabula
