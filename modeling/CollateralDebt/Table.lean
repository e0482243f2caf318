/-!
# Sorted tables

A `Table` maps keys to values and keeps its entries in ascending order of the keys. The order is
part of the type, so two tables with the same contents are the same value: whatever is computed from
the entries, the bytes of a persisted state included, depends on the contents alone.

A `KeySet` is a table that holds nothing but its keys.

## What is stated here

- `Table.get?`, `insert`, `erase`, `ofList`, `size`: the operations;
- `get?_empty`, `get?_insert`, `get?_erase`: each operation seen through `get?`;
- `mem_entries_iff`: an entry is in the table exactly if `get?` finds it;
- `ext_get?`: tables that answer alike are equal;
- `ofList_entries`: a table is rebuilt from its own entries.
-/

namespace CollateralDebt

variable {κ ν : Type} [Ord κ]

/-- A finite map with its entries in ascending order of the keys. -/
@[ext]
structure Table (κ ν : Type) [Ord κ] where
  entries : List (κ × ν)
  sorted : entries.Pairwise fun a b => compare a.1 b.1 = .lt

/-- A finite set, as a table of keys. -/
abbrev KeySet (κ : Type) [Ord κ] := Table κ Unit

namespace Table

/-! ## Sorted lists of entries -/

/-- Put a pair into a sorted list, in place of a pair with the same key. -/
def insertEntry (k : κ) (v : ν) : List (κ × ν) → List (κ × ν)
  | [] => [(k, v)]
  | (k', v') :: rest =>
    match compare k k' with
    | .lt => (k, v) :: (k', v') :: rest
    | .eq => (k, v) :: rest
    | .gt => (k', v') :: insertEntry k v rest

/-- The value at a key in a list of entries. -/
def findEntry (k : κ) : List (κ × ν) → Option ν
  | [] => none
  | (k', v) :: rest => if compare k k' = .eq then some v else findEntry k rest

/-- Nothing gets into the list but the pair itself. -/
theorem mem_insertEntry {k : κ} {v : ν} {a : κ × ν} {l : List (κ × ν)}
    (h : a ∈ insertEntry k v l) : a = (k, v) ∨ a ∈ l := by
  induction l with
  | nil => simpa [insertEntry] using h
  | cons b rest ih =>
    obtain ⟨k', v'⟩ := b
    simp only [insertEntry] at h
    split at h
    · simpa using h
    · rcases List.mem_cons.mp h with h | h
      · exact .inl h
      · exact .inr (List.mem_cons_of_mem _ h)
    · rcases List.mem_cons.mp h with h | h
      · exact .inr (h ▸ List.mem_cons_self)
      · exact (ih h).imp_right (List.mem_cons_of_mem _)

section Lawful

variable [Std.TransOrd κ] [Std.LawfulEqOrd κ]

/-- A pair is put in its place, so that the list stays sorted. -/
theorem sorted_insertEntry (k : κ) (v : ν) {l : List (κ × ν)}
    (h : l.Pairwise fun a b => compare a.1 b.1 = .lt) :
    (insertEntry k v l).Pairwise fun a b => compare a.1 b.1 = .lt := by
  induction l with
  | nil => simp [insertEntry]
  | cons b rest ih =>
    obtain ⟨k', v'⟩ := b
    obtain ⟨first, tail⟩ := List.pairwise_cons.mp h
    simp only [insertEntry]
    split
    · rename_i lt
      refine List.pairwise_cons.mpr ⟨fun a ha => ?_, h⟩
      rcases List.mem_cons.mp ha with rfl | ha
      · exact lt
      · exact Std.TransCmp.lt_trans lt (first a ha)
    · rename_i eq
      have := Std.LawfulEqCmp.eq_of_compare eq
      subst this
      exact List.pairwise_cons.mpr ⟨first, tail⟩
    · rename_i gt
      refine List.pairwise_cons.mpr ⟨fun a ha => ?_, ih tail⟩
      rcases mem_insertEntry ha with rfl | ha
      · exact Std.OrientedCmp.lt_of_gt gt
      · exact first a ha

omit [Std.TransOrd κ] in
/-- After putting a pair in, its value is found at its key and every other as before. -/
theorem findEntry_insertEntry (k : κ) (v : ν) (i : κ) (l : List (κ × ν)) :
    findEntry i (insertEntry k v l) = if compare i k = .eq then some v else findEntry i l := by
  induction l with
  | nil => simp [insertEntry, findEntry]
  | cons b rest ih =>
    obtain ⟨k', v'⟩ := b
    simp only [insertEntry]
    split
    · simp [findEntry]
    · rename_i eq
      have := Std.LawfulEqCmp.eq_of_compare eq
      subst this
      simp only [findEntry]
      split <;> rfl
    · rename_i gt
      simp only [findEntry, ih]
      by_cases h : compare i k = .eq
      · have := Std.LawfulEqCmp.eq_of_compare h
        subst this
        simp [gt]
      · simp [h]

omit [Std.TransOrd κ] in
/-- After taking a key out nothing is found there, and every other value as before. -/
theorem findEntry_filter (k i : κ) (l : List (κ × ν)) :
    findEntry i (l.filter fun e => compare k e.1 != .eq) =
      if compare i k = .eq then none else findEntry i l := by
  induction l with
  | nil => simp [findEntry]
  | cons b rest ih =>
    obtain ⟨k', v'⟩ := b
    by_cases h : compare k k' = .eq
    · have := Std.LawfulEqCmp.eq_of_compare h
      subst this
      simp only [List.filter_cons, h, bne_self_eq_false, Bool.false_eq_true, if_false, ih,
        findEntry]
      split <;> rfl
    · simp only [List.filter_cons, bne_iff_ne, ne_eq, h, not_false_eq_true, if_true, findEntry, ih]
      by_cases hi : compare i k' = .eq
      · have := Std.LawfulEqCmp.eq_of_compare hi
        subst this
        have hne : compare i k ≠ .eq := fun e => h (by
          have := Std.LawfulEqCmp.eq_of_compare e
          subst this
          exact Std.ReflCmp.compare_self)
        simp [hne]
      · simp [hi]

omit [Std.TransOrd κ] [Std.LawfulEqOrd κ] in
/-- Nothing is found at a key below all others. -/
theorem findEntry_eq_none {k : κ} {l : List (κ × ν)}
    (h : ∀ e ∈ l, compare k e.1 = .lt) : findEntry k l = none := by
  induction l with
  | nil => rfl
  | cons b rest ih =>
    simp only [findEntry, h b List.mem_cons_self, reduceCtorEq, if_false]
    exact ih fun e he => h e (List.mem_cons_of_mem _ he)

omit [Std.TransOrd κ] in
/-- In a sorted list an entry is the one that is found at its key. -/
theorem mem_iff_findEntry {k : κ} {v : ν} {l : List (κ × ν)}
    (h : l.Pairwise fun a b => compare a.1 b.1 = .lt) :
    (k, v) ∈ l ↔ findEntry k l = some v := by
  induction l with
  | nil => simp [findEntry]
  | cons b rest ih =>
    obtain ⟨k', v'⟩ := b
    obtain ⟨first, tail⟩ := List.pairwise_cons.mp h
    simp only [List.mem_cons, Prod.mk.injEq, findEntry]
    by_cases eq : compare k k' = .eq
    · have := Std.LawfulEqCmp.eq_of_compare eq
      subst this
      simp only [Std.ReflCmp.compare_self, if_true, Option.some.injEq, true_and]
      constructor
      · rintro (rfl | mem)
        · rfl
        · have := first _ mem
          simp [Std.ReflCmp.compare_self] at this
      · rintro rfl
        exact .inl rfl
    · simp only [eq, if_false, ih tail]
      constructor
      · rintro (⟨rfl, _⟩ | found)
        · exact absurd Std.ReflCmp.compare_self eq
        · exact found
      · exact .inr

/-- Two sorted lists are the same if the same is found in them at every key. -/
theorem entries_ext {l₁ l₂ : List (κ × ν)}
    (h₁ : l₁.Pairwise fun a b => compare a.1 b.1 = .lt)
    (h₂ : l₂.Pairwise fun a b => compare a.1 b.1 = .lt)
    (h : ∀ k, findEntry k l₁ = findEntry k l₂) : l₁ = l₂ := by
  induction l₁ generalizing l₂ with
  | nil =>
    cases l₂ with
    | nil => rfl
    | cons b rest =>
      have := h b.1
      simp [findEntry, Std.ReflCmp.compare_self] at this
  | cons a rest₁ ih =>
    cases l₂ with
    | nil =>
      have := h a.1
      simp [findEntry, Std.ReflCmp.compare_self] at this
    | cons b rest₂ =>
      obtain ⟨first₁, tail₁⟩ := List.pairwise_cons.mp h₁
      obtain ⟨first₂, tail₂⟩ := List.pairwise_cons.mp h₂
      have ma : a ∈ b :: rest₂ := by
        refine (mem_iff_findEntry h₂).mpr ?_
        rw [← h]
        simp [findEntry, Std.ReflCmp.compare_self]
      have mb : b ∈ a :: rest₁ := by
        refine (mem_iff_findEntry h₁).mpr ?_
        rw [h]
        simp [findEntry, Std.ReflCmp.compare_self]
      have same : a = b := by
        rcases List.mem_cons.mp ma with eq | ma
        · exact eq
        rcases List.mem_cons.mp mb with eq | mb
        · exact eq.symm
        have := Std.TransCmp.lt_trans (first₁ b mb) (first₂ a ma)
        simp [Std.ReflCmp.compare_self] at this
      subst same
      congr 1
      refine ih tail₁ tail₂ fun k => ?_
      have := h k
      simp only [findEntry] at this
      by_cases eq : compare k a.1 = .eq
      · have := Std.LawfulEqCmp.eq_of_compare eq
        subst this
        rw [findEntry_eq_none first₁, findEntry_eq_none first₂]
      · simpa [eq] using this

end Lawful

/-! ## Operations -/

/-- The table without entries. -/
def empty : Table κ ν := ⟨[], .nil⟩

instance : Inhabited (Table κ ν) := ⟨empty⟩

/-- The value at a key. -/
def get? (t : Table κ ν) (k : κ) : Option ν := findEntry k t.entries

/-- Whether a key has a value. -/
def contains (t : Table κ ν) (k : κ) : Bool := (t.get? k).isSome

/-- The value at a key, or a default. -/
def getD (t : Table κ ν) (k : κ) (default : ν) : ν := (t.get? k).getD default

/-- The number of entries. -/
def size (t : Table κ ν) : Nat := t.entries.length

/-- Whether there is no entry. -/
def isEmpty (t : Table κ ν) : Bool := t.entries.isEmpty

/-- The keys, ascending. -/
def keys (t : Table κ ν) : List κ := t.entries.map (·.1)

/-- The values, in the order of their keys. -/
def values (t : Table κ ν) : List ν := t.entries.map (·.2)

/-- Without the entry at a key, if there is one. -/
def erase (t : Table κ ν) (k : κ) : Table κ ν :=
  ⟨t.entries.filter fun e => compare k e.1 != .eq, t.sorted.filter _⟩

variable [Std.TransOrd κ] [Std.LawfulEqOrd κ]

/-- With a value at a key, in place of an earlier one. -/
def insert (t : Table κ ν) (k : κ) (v : ν) : Table κ ν :=
  ⟨insertEntry k v t.entries, sorted_insertEntry k v t.sorted⟩

/-- The table of a list of pairs in any order; of two pairs with one key the later counts. -/
def ofList (pairs : List (κ × ν)) : Table κ ν :=
  pairs.foldl (fun t e => t.insert e.1 e.2) empty

omit [Std.TransOrd κ] [Std.LawfulEqOrd κ] in
@[simp] theorem get?_empty (k : κ) : (empty : Table κ ν).get? k = none := rfl

/-- A lookup after an insertion. -/
theorem get?_insert (t : Table κ ν) (k i : κ) (v : ν) :
    (t.insert k v).get? i = if compare i k = .eq then some v else t.get? i :=
  findEntry_insertEntry k v i t.entries

omit [Std.TransOrd κ] in
/-- A lookup after an erasure. -/
theorem get?_erase (t : Table κ ν) (k i : κ) :
    (t.erase k).get? i = if compare i k = .eq then none else t.get? i :=
  findEntry_filter k i t.entries

omit [Std.TransOrd κ] in
/-- The entries of a table are its keys with what is found there. -/
theorem mem_entries_iff {t : Table κ ν} {k : κ} {v : ν} :
    (k, v) ∈ t.entries ↔ t.get? k = some v :=
  mem_iff_findEntry t.sorted

/-- Tables that answer every key alike are equal. -/
theorem ext_get? {s t : Table κ ν} (h : ∀ k, s.get? k = t.get? k) : s = t :=
  Table.ext (entries_ext s.sorted t.sorted h)

/-- A table is rebuilt from its own entries. -/
theorem ofList_entries (t : Table κ ν) : ofList t.entries = t := by
  have key : ∀ (l : List (κ × ν)) (s : Table κ ν),
      l.Pairwise (fun a b => compare a.1 b.1 = .lt) → ∀ i,
      (l.foldl (fun t e => t.insert e.1 e.2) s).get? i = (findEntry i l).or (s.get? i) := by
    intro l
    induction l with
    | nil => intro s _ i; simp [findEntry]
    | cons a rest ih =>
      intro s h i
      obtain ⟨first, tail⟩ := List.pairwise_cons.mp h
      rw [List.foldl_cons, ih _ tail, get?_insert, findEntry]
      by_cases eq : compare i a.1 = .eq
      · have := Std.LawfulEqCmp.eq_of_compare eq
        subst this
        rw [findEntry_eq_none first]
        simp [Std.ReflCmp.compare_self]
      · simp [eq]
  refine ext_get? fun i => ?_
  rw [ofList, key t.entries empty t.sorted i, get?_empty, Option.or_none]
  rfl

end Table

/-! ## Sets of keys -/

namespace KeySet

/-- The set without members. -/
def empty : KeySet κ := Table.empty

variable [Std.TransOrd κ] [Std.LawfulEqOrd κ]

/-- With a member. -/
def insert (s : KeySet κ) (k : κ) : KeySet κ := Table.insert s k ()

end KeySet

/-! ## Pairs as keys -/

section Pairs

variable {α β : Type} [Ord α] [Ord β]

/-- Pairs are ordered by their first parts, and then by their second. -/
instance ordPair : Ord (α × β) := ⟨fun a b => (compare a.1 b.1).then (compare a.2 b.2)⟩

theorem compare_pair (a b : α × β) :
    compare a b = (compare a.1 b.1).then (compare a.2 b.2) := rfl

instance transOrdPair [Std.TransOrd α] [Std.TransOrd β] : Std.TransOrd (α × β) :=
  inferInstanceAs (Std.TransCmp (compareLex (compareOn Prod.fst) (compareOn Prod.snd)))

instance lawfulEqOrdPair [Std.LawfulEqOrd α] [Std.LawfulEqOrd β] : Std.LawfulEqOrd (α × β) where
  compare_self := by
    intro a
    simp [compare_pair, Std.ReflCmp.compare_self]
  eq_of_compare := by
    intro a b h
    simp only [compare_pair, Ordering.then_eq_eq] at h
    exact Prod.ext (Std.LawfulEqCmp.eq_of_compare h.1) (Std.LawfulEqCmp.eq_of_compare h.2)

end Pairs

end CollateralDebt
