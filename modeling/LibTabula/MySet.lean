/-
MySQL data sets as comma-separated text.

`operator<<` writes the members with commas between them and `set2container`
reads such a text. Having read a comma the reader steps over it and then over
one more character, which the comment there explains as the comma at the end of
a string; behind any other comma that character is the first one of a member.
-/

import LibTabula.Bytes
import LibTabula.Foundation.SortedSet
import Mathlib.Algebra.Order.BigOperators.Group.List
import Mathlib.Algebra.Order.Group.Nat
import Mathlib.Algebra.GroupWithZero.Nat
import Mathlib.Data.List.Perm.Subperm

set_option autoImplicit false

namespace LibTabula

open Foundation

/-- `Set<std::set<std::string> >`. -/
abbrev MySet := SortedSet (α := Bytes) (· < ·)

namespace MySet

/-- The loop of `operator<<`, which is `str()` too. -/
def streamOut : List Bytes → Bytes
  | [] => []
  | [item] => item
  | item :: rest => item ++ byte ',' :: streamOut rest

def str (self : MySet) : Bytes := streamOut self.elems

/-- The loop of `set2container`, up to the terminator of the text: the text still
in `temp` and the container. -/
def set2containerLoop {σ : Type} (insert : σ → Bytes → σ) :
    Bytes → Bytes → σ → Bytes × σ
  | [], temp, object => (temp, object)
  | c :: str, temp, object =>
      if c = 0 then (temp, object)
      else if c = byte ',' then
        -- `if (*++str) ++str;`
        match str with
        | [] => ([], insert object temp)
        | d :: rest =>
            if d = 0 then ([], insert object temp)
            else set2containerLoop insert rest [] (insert object temp)
      else set2containerLoop insert str (temp ++ [c]) object

def set2container {σ : Type} (insert : σ → Bytes → σ) (str : Bytes) (object : σ) : σ :=
  let (temp, object) := set2containerLoop insert str [] object
  if temp = [] then object else insert object temp

/-- The constructors from a text, which all pass a C string on. -/
def ofText (str : Bytes) : MySet :=
  set2container (SortedSet.insert (· < ·)) str (SortedSet.empty (· < ·))

/-- The members that a set can have if its text is to be read back. -/
structure Separable (item : Bytes) : Prop where
  noComma : byte ',' ∉ item
  noNul : (0 : UInt8) ∉ item

/-- What the reader makes of the members of a text: behind each comma the first
character of a member is lost, and so is a last member of one character. -/
def decoded : List Bytes → List Bytes
  | [] => []
  | [item] => if item = [] then [] else [item]
  | item :: next :: rest => item :: decoded (next.tail :: rest)
termination_by items => items.length

section Reader

variable {σ : Type} (insert : σ → Bytes → σ)

theorem loop_append {item : Bytes} (separable : Separable item) (rest temp : Bytes)
    (object : σ) :
    set2containerLoop insert (item ++ rest) temp object =
      set2containerLoop insert rest (temp ++ item) object := by
  induction item generalizing temp with
  | nil => simp only [List.nil_append, List.append_nil]
  | cons c item ih =>
      have notNul : c ≠ 0 := fun same =>
        separable.noNul (by rw [same]; exact List.mem_cons_self)
      have notComma : c ≠ byte ',' := fun same =>
        separable.noComma (by rw [same]; exact List.mem_cons_self)
      have tail : Separable item :=
        ⟨fun member => separable.noComma (List.mem_cons_of_mem c member),
          fun member => separable.noNul (List.mem_cons_of_mem c member)⟩
      rw [List.cons_append, set2containerLoop.eq_def]
      simp only [if_neg notNul, if_neg notComma]
      rw [ih tail, List.append_assoc, List.cons_append, List.nil_append]

theorem loop_comma {c : UInt8} (notNul : c ≠ 0) (rest temp : Bytes) (object : σ) :
    set2containerLoop insert (byte ',' :: c :: rest) temp object =
      set2containerLoop insert rest [] (insert object temp) := by
  rw [set2containerLoop.eq_def]
  have commaNotNul : byte ',' ≠ 0 := by decide
  simp only [if_neg commaNotNul, if_true, if_neg notNul]

theorem streamOut_cons_cons (c : UInt8) (item : Bytes) (rest : List Bytes) :
    streamOut ((c :: item) :: rest) = c :: streamOut (item :: rest) := by
  cases rest with
  | nil => rfl
  | cons next rest => simp only [streamOut, List.cons_append]

theorem set2container_streamOut (items : List Bytes) (temp item : Bytes) (object : σ)
    (first : Separable item) (separable : ∀ other ∈ items, Separable other)
    (nonempty : ∀ other ∈ items, other ≠ []) :
    (let (left, filled) := set2containerLoop insert (streamOut (item :: items)) temp object
     if left = [] then filled else insert filled left) =
      (decoded ((temp ++ item) :: items)).foldl insert object := by
  induction items generalizing temp item object with
  | nil =>
      have whole := loop_append insert first [] temp object
      rw [List.append_nil] at whole
      simp only [streamOut, whole, set2containerLoop, decoded]
      by_cases nothing : temp ++ item = []
      · rw [if_pos nothing, if_pos nothing]
        rfl
      · rw [if_neg nothing, if_neg nothing]
        rfl
  | cons next items ih =>
      cases next with
      | nil => exact absurd rfl (nonempty [] List.mem_cons_self)
      | cons c tail =>
          have here := separable (c :: tail) List.mem_cons_self
          have notNul : c ≠ 0 := fun same =>
            here.noNul (by rw [same]; exact List.mem_cons_self)
          have tailSeparable : Separable tail :=
            ⟨fun member => here.noComma (List.mem_cons_of_mem c member),
              fun member => here.noNul (List.mem_cons_of_mem c member)⟩
          have read : set2containerLoop insert
                (streamOut (item :: (c :: tail) :: items)) temp object =
              set2containerLoop insert (streamOut (tail :: items)) []
                (insert object (temp ++ item)) := by
            rw [streamOut, loop_append insert first, streamOut_cons_cons,
              loop_comma insert notNul]
            intro impossible
            cases impossible
          rw [read, decoded, List.foldl_cons]
          exact ih [] tail (insert object (temp ++ item)) tailSeparable
            (fun other member => separable other (List.mem_cons_of_mem _ member))
            (fun other member => nonempty other (List.mem_cons_of_mem _ member))

end Reader

theorem decoded_length (item : Bytes) (items : List Bytes)
    (nonempty : ∀ other ∈ items, other ≠ []) :
    ((decoded (item :: items)).map List.length).sum + items.length =
      ((item :: items).map List.length).sum := by
  induction items generalizing item with
  | nil =>
      unfold decoded
      by_cases nothing : item = []
      · rw [if_pos nothing, nothing]
        rfl
      · rw [if_neg nothing]
        rfl
  | cons next items ih =>
      have shorter : next.tail.length + 1 = next.length := by
        rw [List.length_tail]
        have positive := List.length_pos_iff.mpr (nonempty next List.mem_cons_self)
        omega
      have rest := ih next.tail
        (fun other member => nonempty other (List.mem_cons_of_mem _ member))
      unfold decoded
      simp only [List.map_cons, List.sum_cons, List.length_cons] at rest ⊢
      omega

theorem ofText_str_of_cons {item : Bytes} {items : List Bytes} {self : MySet}
    (shape : self.elems = item :: items) (separable : ∀ other ∈ self.elems, Separable other)
    (nonempty : ∀ other ∈ self.elems, other ≠ []) :
    ofText self.str =
      (decoded self.elems).foldl (SortedSet.insert (· < ·)) (SortedSet.empty (· < ·)) := by
  rw [shape] at separable nonempty
  have read := set2container_streamOut (SortedSet.insert (α := Bytes) (· < ·)) items [] item
    (SortedSet.empty (· < ·)) (separable item List.mem_cons_self)
    (fun other member => separable other (List.mem_cons_of_mem _ member))
    (fun other member => nonempty other (List.mem_cons_of_mem _ member))
  rw [List.nil_append] at read
  rw [str, shape]
  exact read

/-- Reading the text of a set gives the set back exactly when it has at most one
member. With two members a character is lost, and the members read are too short
to be all the members written. -/
theorem ofText_str_eq_iff (self : MySet) (separable : ∀ item ∈ self.elems, Separable item)
    (nonempty : ∀ item ∈ self.elems, item ≠ []) :
    ofText self.str = self ↔ self.elems.length ≤ 1 := by
  cases shape : self.elems with
  | nil =>
      have same : ofText self.str = self := by
        apply SortedSet.ext_mem
        intro item
        rw [str, shape]
        exact Iff.rfl
      simp only [same, List.length_nil, Nat.zero_le]
  | cons item items =>
      have read := ofText_str_of_cons shape separable nonempty
      have members : ∀ other, other ∈ (ofText self.str).elems ↔
          other ∈ decoded (item :: items) := by
        intro other
        rw [read, SortedSet.mem_foldl_insert, shape]
        simp [SortedSet.empty]
      constructor
      · intro same
        rw [same, shape] at members
        have distinct : (item :: items).Nodup := by
          rw [← shape]
          exact self.nodup
        obtain ⟨kept, perm, sublist⟩ :=
          distinct.subperm (fun other member => (members other).mp member)
        have fewer : ((item :: items).map List.length).sum ≤
            ((decoded (item :: items)).map List.length).sum := by
          rw [← (perm.map List.length).sum_eq]
          exact (sublist.map List.length).sum_le_sum (fun _ _ => Nat.zero_le _)
        have lost := decoded_length item items (fun other member =>
          nonempty other (by rw [shape]; exact List.mem_cons_of_mem _ member))
        rw [List.length_cons]
        omega
      · intro short
        rw [List.length_cons] at short
        have alone : items = [] := List.length_eq_zero_iff.mp (by omega)
        subst items
        have present : item ≠ [] := nonempty item (by rw [shape]; exact List.mem_cons_self)
        apply SortedSet.ext_mem
        intro other
        rw [members, shape, decoded, if_neg present]

theorem ofText_str_eq_iff_singleton :
    ofText (MySet.str ⟨[ascii "a"], List.pairwise_singleton _ _⟩) =
        ⟨[ascii "a"], List.pairwise_singleton _ _⟩ ↔
      [ascii "a"].length ≤ 1 :=
  ofText_str_eq_iff ⟨[ascii "a"], List.pairwise_singleton _ _⟩
    (fun _ member => by
      rw [List.mem_singleton.mp member]
      exact ⟨by decide, by decide⟩)
    (fun _ member => by
      rw [List.mem_singleton.mp member]
      decide)

def twoLetters : MySet := ⟨[ascii "a", ascii "b"], by decide⟩

theorem twoLetters_not_read_back :
    (∀ item ∈ twoLetters.elems, Separable item) ∧
      (∀ item ∈ twoLetters.elems, item ≠ []) ∧
      twoLetters.str = ascii "a,b" ∧
      (ofText twoLetters.str).elems = [ascii "a"] ∧
      ofText twoLetters.str ≠ twoLetters := by
  have members : ∀ item ∈ twoLetters.elems, item = ascii "a" ∨ item = ascii "b" := by
    intro item member
    simpa [twoLetters] using member
  have read : (ofText twoLetters.str).elems = [ascii "a"] := by decide
  constructor
  · intro item member
    rcases members item member with rfl | rfl
    · exact ⟨by decide, by decide⟩
    · exact ⟨by decide, by decide⟩
  constructor
  · intro item member
    rcases members item member with rfl | rfl
    · decide
    · decide
  constructor
  · decide
  constructor
  · exact read
  · intro same
    rw [same] at read
    cases read

end MySet

end LibTabula
