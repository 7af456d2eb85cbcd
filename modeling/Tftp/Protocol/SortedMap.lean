import Mathlib.Algebra.BigOperators.Group.List.Basic
import Mathlib.Data.List.Sort
import Mathlib.Order.Defs.LinearOrder

/-!
# Maps kept as sorted association lists

A finite map whose entries are listed in strictly ascending order of their keys.
The order is part of the value, so two maps with the same lookups are equal
(`Protocol.SortedMap.ext_find?`) and iterating over a map is reading its list.
Insertion never overwrites: `Protocol.SortedMap.emplace` keeps an entry that is
already there, and `Protocol.SortedMap.find?_foldl_emplace` says what follows for
a map built from a list – the first entry of every key wins.

A map of counters is used through `Protocol.SortedMap.modify`, and what its values add
up to through `Protocol.SortedMap.weight`: `Protocol.SortedMap.weight_modify` books a
change of one counter on the total.
-/

namespace Protocol

/-- A finite map, its entries in strictly ascending order of the keys. -/
structure SortedMap (κ ν : Type*) [LinearOrder κ] where
  /-- The entries, in the order of their keys. -/
  entries : List (κ × ν)
  /-- The keys are strictly ascending. -/
  sorted : entries.Pairwise fun x y => x.1 < y.1

namespace SortedMap

variable {κ ν : Type*} [LinearOrder κ]

instance [DecidableEq ν] : DecidableEq (SortedMap κ ν) := fun m m' =>
  decidable_of_iff (m.entries = m'.entries) ⟨fun h => by cases m; cases m'; congr, congrArg _⟩

/-- The map without entries. -/
def empty : SortedMap κ ν := ⟨[], List.Pairwise.nil⟩

instance : Inhabited (SortedMap κ ν) := ⟨empty⟩

/-- Whether the map has no entry. -/
def isEmpty (m : SortedMap κ ν) : Bool := m.entries.isEmpty

/-- The value of a key in a list of entries: the first one. -/
def lookup (k : κ) : List (κ × ν) → Option ν
  | [] => none
  | (k', v) :: l => if k = k' then some v else lookup k l

/-- The value of a key. -/
def find? (m : SortedMap κ ν) (k : κ) : Option ν := lookup k m.entries

/-- A new entry at its place, unless the key is taken. -/
def insertEntry (k : κ) (v : ν) : List (κ × ν) → List (κ × ν)
  | [] => [(k, v)]
  | (k', v') :: l =>
      if k < k' then (k, v) :: (k', v') :: l
      else if k = k' then (k', v') :: l
      else (k', v') :: insertEntry k v l

section Entries

variable {k k' : κ} {v : ν} {l : List (κ × ν)}

theorem lookup_mem (h : lookup k l = some v) : (k, v) ∈ l := by
  induction l with
  | nil => simp [lookup] at h
  | cons x l ih =>
    rw [lookup] at h
    split_ifs at h with hk
    · obtain rfl := Option.some.inj h
      simp [hk]
    · exact List.mem_cons_of_mem _ (ih h)

/-- A key below all keys of a list is not found in it. -/
theorem lookup_eq_none (h : ∀ x ∈ l, k ≠ x.1) : lookup k l = none := by
  induction l with
  | nil => rfl
  | cons x l ih =>
    rw [lookup, if_neg (h x List.mem_cons_self)]
    exact ih fun y hy => h y (List.mem_cons_of_mem _ hy)

theorem lookup_of_mem (hs : l.Pairwise fun x y => x.1 < y.1) (h : (k, v) ∈ l) :
    lookup k l = some v := by
  induction l with
  | nil => simp at h
  | cons x l ih =>
    rw [lookup]
    rcases List.mem_cons.mp h with rfl | h
    · exact if_pos rfl
    · have hlt : x.1 < k := (List.pairwise_cons.mp hs).1 _ h
      rw [if_neg hlt.ne']
      exact ih (List.pairwise_cons.mp hs).2 h

theorem insertEntry_keys {x : κ × ν} (h : x ∈ insertEntry k v l) : x.1 = k ∨ x ∈ l := by
  induction l with
  | nil =>
    obtain rfl := List.mem_singleton.mp h
    exact Or.inl rfl
  | cons y l ih =>
    rw [insertEntry] at h
    split_ifs at h with hlt heq
    · rcases List.mem_cons.mp h with rfl | h
      · exact Or.inl rfl
      · exact Or.inr h
    · exact Or.inr h
    · rcases List.mem_cons.mp h with rfl | h
      · exact Or.inr List.mem_cons_self
      · exact (ih h).imp_right (List.mem_cons_of_mem _)

theorem insertEntry_sorted (hs : l.Pairwise fun x y => x.1 < y.1) :
    (insertEntry k v l).Pairwise fun x y => x.1 < y.1 := by
  induction l with
  | nil => exact List.pairwise_singleton _ _
  | cons x l ih =>
    have hx := List.pairwise_cons.mp hs
    rw [insertEntry]
    split_ifs with hlt heq
    · refine List.pairwise_cons.mpr ⟨fun y hy => ?_, hs⟩
      rcases List.mem_cons.mp hy with rfl | hy
      · exact hlt
      · exact lt_trans hlt (hx.1 y hy)
    · exact hs
    · refine List.pairwise_cons.mpr ⟨fun y hy => ?_, ih hx.2⟩
      rcases insertEntry_keys hy with hk | hy
      · rw [hk]
        exact lt_of_le_of_ne (not_lt.mp hlt) (Ne.symm heq)
      · exact hx.1 y hy

/-- **Looking up after an insertion**: an entry that was there stays, and the new
one is found where its key was free. -/
theorem lookup_insertEntry (hs : l.Pairwise fun x y => x.1 < y.1) :
    lookup k' (insertEntry k v l) = (lookup k' l).or (if k' = k then some v else none) := by
  induction l with
  | nil => simp [insertEntry, lookup]
  | cons x l ih =>
    obtain ⟨k₀, v₀⟩ := x
    obtain ⟨hx, hl⟩ := List.pairwise_cons.mp hs
    rw [insertEntry]
    by_cases hlt : k < k₀
    · rw [if_pos hlt, lookup]
      by_cases hk : k' = k
      · subst hk
        have hfree : lookup k' ((k₀, v₀) :: l) = none := lookup_eq_none fun y hy => by
          rcases List.mem_cons.mp hy with rfl | hy
          · exact hlt.ne
          · exact (lt_trans hlt (hx y hy)).ne
        rw [hfree, Option.none_or]
      · rw [if_neg hk, if_neg hk, Option.or_none]
    · rw [if_neg hlt]
      by_cases heq : k = k₀
      · subst heq
        rw [if_pos rfl, lookup]
        by_cases hk : k' = k <;> simp [hk]
      · rw [if_neg heq, lookup, lookup]
        by_cases hk : k' = k₀
        · rw [if_pos hk, if_pos hk, Option.some_or]
        · rw [if_neg hk, if_neg hk, ih hl]

end Entries

/-- `try_emplace` and `emplace`: a new entry, unless the key is taken. -/
def emplace (m : SortedMap κ ν) (k : κ) (v : ν) : SortedMap κ ν :=
  ⟨insertEntry k v m.entries, insertEntry_sorted m.sorted⟩

/-- Remove the entry of a key. -/
def erase (m : SortedMap κ ν) (k : κ) : SortedMap κ ν :=
  ⟨m.entries.filter fun x => x.1 ≠ k, m.sorted.filter _⟩

variable {m m' : SortedMap κ ν} {k k' : κ} {v : ν}

@[simp] theorem find?_empty : (empty : SortedMap κ ν).find? k = none := rfl

theorem find?_emplace :
    (m.emplace k v).find? k' = (m.find? k').or (if k' = k then some v else none) :=
  lookup_insertEntry m.sorted

theorem find?_eq_some : m.find? k = some v ↔ (k, v) ∈ m.entries :=
  ⟨lookup_mem, lookup_of_mem m.sorted⟩

theorem find?_erase : (m.erase k).find? k' = if k' = k then none else m.find? k' := by
  refine Option.ext fun v => ?_
  rw [find?_eq_some]
  split_ifs with h
  · simp [erase, h]
  · rw [find?_eq_some]
    simp [erase, h]

/-- **Maps with the same lookups are equal**: an ascending list is determined by
its elements. -/
theorem ext_find? (h : ∀ k, m.find? k = m'.find? k) : m = m' := by
  have hmem : ∀ x, x ∈ m.entries ↔ x ∈ m'.entries := fun x => by
    rw [← find?_eq_some (k := x.1) (v := x.2), ← find?_eq_some (k := x.1) (v := x.2), h]
  have hnodup : ∀ n : SortedMap κ ν, n.entries.Nodup := fun n =>
    n.sorted.imp fun {x y} hxy heq => absurd (congrArg Prod.fst heq) hxy.ne
  have hperm : m.entries.Perm m'.entries :=
    (List.perm_ext_iff_of_nodup (hnodup m) (hnodup m')).mpr hmem
  have heq : m.entries = m'.entries := hperm.eq_of_pairwise
    (fun x y _ _ hxy hyx => absurd hxy (lt_asymm hyx)) m.sorted m'.sorted
  cases m
  cases m'
  congr

theorem isEmpty_iff : m.isEmpty = true ↔ ∀ k, m.find? k = none := by
  constructor
  · intro h k
    rw [isEmpty, List.isEmpty_iff] at h
    rw [find?, h]
    rfl
  · intro h
    rw [isEmpty, List.isEmpty_iff, List.eq_nil_iff_forall_not_mem]
    rintro ⟨k, v⟩ hx
    rw [← find?_eq_some, h k] at hx
    simp at hx

/-- **A map built from a list**: the first entry of every key wins, after the
entries the map had before. -/
theorem find?_foldl_emplace (l : List (κ × ν)) (m : SortedMap κ ν) :
    (l.foldl (fun m x => m.emplace x.1 x.2) m).find? k = (m.find? k).or (lookup k l) := by
  induction l generalizing m with
  | nil => simp [lookup]
  | cons x l ih =>
    rw [List.foldl_cons, ih, find?_emplace, Option.or_assoc, lookup]
    split_ifs <;> simp

/-- Building a map from its own entries gives it back. -/
theorem foldl_emplace_entries (m : SortedMap κ ν) :
    m.entries.foldl (fun m x => m.emplace x.1 x.2) empty = m :=
  ext_find? fun k => by rw [find?_foldl_emplace, find?_empty, Option.none_or, find?]

/-! ### Counters -/

/-- Change the value of a key; other keys keep theirs. -/
def modify (m : SortedMap κ ν) (k : κ) (f : ν → ν) : SortedMap κ ν :=
  ⟨m.entries.map fun x => if x.1 = k then (x.1, f x.2) else x,
    List.pairwise_map.mpr (m.sorted.imp fun {x y} hxy => by split_ifs <;> exact hxy)⟩

variable {M : Type*} [AddCommMonoid M] {w : ν → M}

/-- What the values of a map add up to. -/
def weight (w : ν → M) (m : SortedMap κ ν) : M := (m.entries.map fun x => w x.2).sum

/-- A new entry without weight adds nothing. -/
theorem weight_emplace (hv : w v = 0) : (m.emplace k v).weight w = m.weight w := by
  have hl : ∀ l : List (κ × ν), ((insertEntry k v l).map fun x => w x.2).sum =
      (l.map fun x => w x.2).sum := by
    intro l
    induction l with
    | nil => simp [insertEntry, hv]
    | cons x l ih =>
      rw [insertEntry]
      split_ifs
      · rw [List.map_cons, List.sum_cons, hv, zero_add]
      · rfl
      · rw [List.map_cons, List.sum_cons, ih, List.map_cons, List.sum_cons]
  exact hl m.entries

/-- **A change of one value changes the total by as much.** -/
theorem weight_modify {f : ν → ν} {c : M} (hk : m.find? k = some v)
    (hf : ∀ v, w (f v) = w v + c) : (m.modify k f).weight w = m.weight w + c := by
  have hl : ∀ l : List (κ × ν), l.Pairwise (fun x y => x.1 < y.1) → lookup k l = some v →
      ((l.map fun x => if x.1 = k then (x.1, f x.2) else x).map fun x => w x.2).sum =
        (l.map fun x => w x.2).sum + c := by
    intro l hs hfind
    induction l with
    | nil => cases hfind
    | cons x l ih =>
      obtain ⟨hx, hs⟩ := List.pairwise_cons.mp hs
      rw [List.map_cons, List.map_cons, List.sum_cons, List.map_cons, List.sum_cons]
      by_cases hxk : x.1 = k
      · -- the keys behind this one are greater
        have hrest : (l.map fun x => if x.1 = k then (x.1, f x.2) else x) = l :=
          (List.map_congr_left fun y hy => if_neg (hxk ▸ (hx y hy).ne')).trans l.map_id
        rw [hrest, if_pos hxk, hf, add_right_comm]
      · rw [lookup, if_neg (Ne.symm hxk)] at hfind
        rw [if_neg hxk, ih hs hfind, add_assoc]
  exact hl m.entries m.sorted hk

theorem exists_find?_emplace (m : SortedMap κ ν) (k : κ) (v : ν) :
    ∃ v', (m.emplace k v).find? k = some v' := by
  rw [find?_emplace, if_pos rfl]
  cases m.find? k with
  | none => exact ⟨v, rfl⟩
  | some v' => exact ⟨v', rfl⟩

end SortedMap

end Protocol
