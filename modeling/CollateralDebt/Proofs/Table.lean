import Mathlib.Algebra.Order.BigOperators.Group.List
import Mathlib.Algebra.Order.Ring.Nat
import CollateralDebt.Table

/-!
# Sums over tables

A table of positions is summed up value by value. An insertion adds the new value and takes away the
one that it replaces; an erasure takes away what was there. Both are facts about sorted lists of
entries, where a key stands at one place only.

## What is proved

- `sum_insert`, `sum_erase`: what a change of the table does to a sum over it;
- `weight_insert`: the same for a sum that may tell keys apart;
- `le_sum`, `le_weight`: one value is at most the sum;
- `mem_keys_iff`: the keys are the places where `get?` finds a value;
- `insert_insert`, `insert_comm`, `erase_insert`: changes that undo or pass each other.
-/

namespace CollateralDebt.Table

variable {κ ν : Type} [Ord κ]

/-- The sum of a number read off each value. -/
def sum (t : Table κ ν) (f : ν → Nat) : Nat := (t.values.map f).sum

/-- What the value at a key counts for, if there is one. -/
def share (t : Table κ ν) (f : ν → Nat) (k : κ) : Nat := ((t.get? k).map f).getD 0

theorem share_of_get? {t : Table κ ν} {f : ν → Nat} {k : κ} {v : ν} (h : t.get? k = some v) :
    t.share f k = f v := by
  unfold share
  rw [h]
  rfl

theorem share_of_get?_eq_none {t : Table κ ν} {f : ν → Nat} {k : κ} (h : t.get? k = none) :
    t.share f k = 0 := by
  unfold share
  rw [h]
  rfl

/-- The sum over a table is the sum over the list of its entries. -/
theorem sum_eq (t : Table κ ν) (f : ν → Nat) : t.sum f = (t.entries.map fun e => f e.2).sum := by
  unfold sum values
  rw [List.map_map]
  rfl

/-- The sum of a number read off each entry. -/
def weight (t : Table κ ν) (f : κ × ν → Nat) : Nat := (t.entries.map f).sum

@[simp] theorem sum_empty (f : ν → Nat) : (empty : Table κ ν).sum f = 0 := rfl

/-- Putting an entry into a sorted list adds what it counts for in place of the one that it
replaces. -/
theorem sum_insertEntry (f : κ × ν → Nat) (k : κ) (v : ν) {l : List (κ × ν)}
    [Std.TransOrd κ] [Std.LawfulEqOrd κ] (h : l.Pairwise fun a b => compare a.1 b.1 = .lt) :
    ((insertEntry k v l).map f).sum + ((findEntry k l).map fun w => f (k, w)).getD 0 =
      (l.map f).sum + f (k, v) := by
  induction l with
  | nil => simp [insertEntry, findEntry]
  | cons b rest ih =>
    obtain ⟨k', v'⟩ := b
    obtain ⟨first, tail⟩ := List.pairwise_cons.mp h
    simp only [insertEntry]
    cases order : compare k k' with
    | lt =>
      -- the key is below all others, so there was nothing to replace
      have absent : findEntry k ((k', v') :: rest) = none := by
        apply findEntry_eq_none
        intro e he
        rcases List.mem_cons.mp he with rfl | he
        · exact order
        · exact Std.TransCmp.lt_trans order (first e he)
      simp only [absent, List.map_cons, List.sum_cons, Option.map_none, Option.getD_none]
      omega
    | eq =>
      have same := Std.LawfulEqCmp.eq_of_compare order
      subst same
      simp only [findEntry, order, if_true, List.map_cons, List.sum_cons, Option.map_some,
        Option.getD_some]
      omega
    | gt =>
      have := ih tail
      simp only [findEntry, order, reduceCtorEq, if_false, List.map_cons, List.sum_cons]
      omega

/-- Taking a key out of a sorted list takes away what its entry counts for. -/
theorem sum_filter (f : ν → Nat) (k : κ) {l : List (κ × ν)} [Std.TransOrd κ] [Std.LawfulEqOrd κ]
    (h : l.Pairwise fun a b => compare a.1 b.1 = .lt) :
    ((l.filter fun e => compare k e.1 != .eq).map fun e => f e.2).sum +
      ((findEntry k l).map f).getD 0 = (l.map fun e => f e.2).sum := by
  induction l with
  | nil => rfl
  | cons b rest ih =>
    obtain ⟨k', v'⟩ := b
    obtain ⟨first, tail⟩ := List.pairwise_cons.mp h
    have tails := ih tail
    by_cases eq : compare k k' = .eq
    · have same := Std.LawfulEqCmp.eq_of_compare eq
      subst same
      -- the key stands at this place only
      rw [findEntry_eq_none first] at tails
      simp only [List.filter_cons, eq, bne_self_eq_false, Bool.false_eq_true, if_false, findEntry,
        if_true, List.map_cons, List.sum_cons, Option.map_some, Option.getD_some, Option.map_none,
        Option.getD_none] at tails ⊢
      omega
    · simp only [List.filter_cons, bne_iff_ne, ne_eq, eq, not_false_eq_true, if_true, findEntry,
        if_false, List.map_cons, List.sum_cons]
      omega

section Lawful

variable [Std.TransOrd κ] [Std.LawfulEqOrd κ]

/-- An insertion adds the new value and takes away the one it replaces. -/
theorem sum_insert (t : Table κ ν) (f : ν → Nat) (k : κ) (v : ν) :
    (t.insert k v).sum f + t.share f k = t.sum f + f v := by
  rw [sum_eq, sum_eq]
  exact sum_insertEntry (fun e => f e.2) k v t.sorted

/-- An erasure takes away what was there. -/
theorem sum_erase (t : Table κ ν) (f : ν → Nat) (k : κ) :
    (t.erase k).sum f + t.share f k = t.sum f := by
  rw [sum_eq, sum_eq]
  exact sum_filter f k t.sorted

/-- One value counts for at most the sum. -/
theorem le_sum {t : Table κ ν} {k : κ} {v : ν} (f : ν → Nat) (h : t.get? k = some v) :
    f v ≤ t.sum f := by
  have erased := t.sum_erase f k
  rw [share_of_get? h] at erased
  omega

/-- An insertion adds what the new entry counts for and takes away what the one it replaces did. -/
theorem weight_insert (t : Table κ ν) (f : κ × ν → Nat) (k : κ) (v : ν) :
    (t.insert k v).weight f + ((t.get? k).map fun w => f (k, w)).getD 0 = t.weight f + f (k, v) :=
  sum_insertEntry f k v t.sorted

omit [Std.TransOrd κ] in
/-- One entry counts for at most the sum. -/
theorem le_weight {t : Table κ ν} {k : κ} {v : ν} (f : κ × ν → Nat) (h : t.get? k = some v) :
    f (k, v) ≤ t.weight f :=
  List.le_sum_of_mem (List.mem_map_of_mem (mem_entries_iff.mpr h))

/-- What was inserted is found. -/
theorem get?_insert_self (t : Table κ ν) (k : κ) (v : ν) : (t.insert k v).get? k = some v := by
  rw [get?_insert, if_pos Std.ReflCmp.compare_self]

/-- Inserting at one key changes nothing at another one. -/
theorem get?_insert_of_ne (t : Table κ ν) {k i : κ} (v : ν) (h : i ≠ k) :
    (t.insert k v).get? i = t.get? i := by
  rw [get?_insert, if_neg fun eq => h (Std.LawfulEqCmp.eq_of_compare eq)]

theorem get?_insert_ite [DecidableEq κ] (t : Table κ ν) (k i : κ) (v : ν) :
    (t.insert k v).get? i = if i = k then some v else t.get? i := by
  split
  · rename_i here
    rw [here, get?_insert_self]
  · rename_i ne
    exact get?_insert_of_ne t v ne

/-- The value that is put at a key last is the one that counts. -/
theorem insert_insert (t : Table κ ν) (k : κ) (v w : ν) :
    (t.insert k v).insert k w = t.insert k w := by
  apply ext_get?
  intro i
  by_cases here : i = k
  · subst here
    rw [get?_insert_self, get?_insert_self]
  · rw [get?_insert_of_ne _ _ here, get?_insert_of_ne _ _ here, get?_insert_of_ne _ _ here]

/-- Putting a value where it already is changes nothing. -/
theorem insert_same {t : Table κ ν} {k : κ} {v : ν} (found : t.get? k = some v) :
    t.insert k v = t := by
  apply ext_get?
  intro i
  by_cases here : i = k
  · subst here
    rw [get?_insert_self, found]
  · rw [get?_insert_of_ne _ _ here]

/-- Insertions at different keys can be made in any order. -/
theorem insert_comm (t : Table κ ν) {i j : κ} (h : i ≠ j) (v w : ν) :
    (t.insert i v).insert j w = (t.insert j w).insert i v := by
  apply ext_get?
  intro k
  by_cases first : k = i
  · subst first
    rw [get?_insert_of_ne _ w h, get?_insert_self, get?_insert_self]
  · rw [get?_insert_of_ne _ v first]
    by_cases second : k = j
    · subst second
      rw [get?_insert_self, get?_insert_self]
    · rw [get?_insert_of_ne _ w second, get?_insert_of_ne _ w second, get?_insert_of_ne _ v first]

omit [Std.TransOrd κ] in
/-- What was erased is not found. -/
theorem get?_erase_self (t : Table κ ν) (k : κ) : (t.erase k).get? k = none := by
  rw [get?_erase, if_pos Std.ReflCmp.compare_self]

omit [Std.TransOrd κ] in
/-- Erasing at one key changes nothing at another one. -/
theorem get?_erase_of_ne (t : Table κ ν) {k i : κ} (h : i ≠ k) :
    (t.erase k).get? i = t.get? i := by
  rw [get?_erase, if_neg fun eq => h (Std.LawfulEqCmp.eq_of_compare eq)]

omit [Std.TransOrd κ] in
theorem get?_erase_ite [DecidableEq κ] (t : Table κ ν) (k i : κ) :
    (t.erase k).get? i = if i = k then none else t.get? i := by
  split
  · rename_i here
    rw [here, get?_erase_self]
  · rename_i ne
    exact get?_erase_of_ne t ne

/-- What is erased may have been put there before. -/
theorem erase_insert (t : Table κ ν) (k : κ) (v : ν) : (t.insert k v).erase k = t.erase k := by
  apply ext_get?
  intro i
  by_cases here : i = k
  · subst here
    rw [get?_erase_self, get?_erase_self]
  · rw [get?_erase_of_ne _ here, get?_erase_of_ne _ here, get?_insert_of_ne _ _ here]

/-- A table into which something was put is not empty. -/
theorem insert_ne_empty (t : Table κ ν) (k : κ) (v : ν) : t.insert k v ≠ .empty := by
  intro h
  have found := t.get?_insert_self k v
  rw [h, get?_empty] at found
  cases found

omit [Std.TransOrd κ] [Std.LawfulEqOrd κ] in
theorem eq_empty_of_isEmpty {t : Table κ ν} (h : t.isEmpty = true) : t = .empty :=
  Table.ext (List.isEmpty_iff.mp h)

omit [Std.TransOrd κ] [Std.LawfulEqOrd κ] in
/-- The keys of a table are in strict order, and so without repetition. -/
theorem sorted_keys (t : Table κ ν) : t.keys.Pairwise fun a b => compare a b = .lt :=
  List.pairwise_map.mpr t.sorted

omit [Std.TransOrd κ] in
/-- The keys are the places where a value is found. -/
theorem mem_keys_iff {t : Table κ ν} {k : κ} : k ∈ t.keys ↔ ∃ v, t.get? k = some v := by
  unfold keys
  constructor
  · intro h
    obtain ⟨⟨_, v⟩, mem, rfl⟩ := List.mem_map.mp h
    exact ⟨v, mem_entries_iff.mp mem⟩
  · rintro ⟨v, h⟩
    exact List.mem_map.mpr ⟨(k, v), mem_entries_iff.mpr h, rfl⟩

/-- An inserted key is a member, and so are the members before. -/
theorem mem_keys_insert {s : KeySet κ} {k i : κ} :
    i ∈ (KeySet.insert s k).keys ↔ i = k ∨ i ∈ s.keys := by
  simp only [mem_keys_iff]
  by_cases h : i = k
  · subst h
    simp [KeySet.insert, get?_insert_self]
  · simp [KeySet.insert, get?_insert_of_ne s () h, h]

omit [Std.TransOrd κ] in
/-- Erasing takes one key away. -/
theorem mem_keys_erase {t : Table κ ν} {k i : κ} : i ∈ (t.erase k).keys ↔ i ∈ t.keys ∧ i ≠ k := by
  simp only [mem_keys_iff]
  by_cases h : i = k
  · subst h
    simp [get?_erase_self]
  · simp [get?_erase_of_ne t h, h]

end Lawful

end CollateralDebt.Table
