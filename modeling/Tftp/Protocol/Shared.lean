import Mathlib.Data.Fintype.Basic
import Mathlib.Logic.Function.Basic

/-!
# Objects that are shared

Objects kept alive by reference counting: variables `ι` point to objects of type `α`, and an
object exists as long as a variable points to it (`Protocol.Shared`). Objects are numbered in the
order in which they are made, and no number is used twice, so that an object can be spoken of
when it is gone.
-/

namespace Protocol

/-- Variables and the objects they point to. -/
structure Shared (ι α : Type*) where
  /-- The objects that exist. -/
  object : ℕ → Option α
  /-- What the variables point to. -/
  points : ι → Option ℕ
  /-- The number of the next object. -/
  next : ℕ
  /-- What a variable points to exists. -/
  alive : ∀ i n, points i = some n → (object n).isSome
  /-- What exists is pointed to. -/
  owned : ∀ n, (object n).isSome → ∃ i, points i = some n
  /-- What exists has been made. -/
  made : ∀ n, (object n).isSome → n < next

namespace Shared

variable {ι α : Type*}

/-- No object has been made. -/
def empty : Shared ι α where
  object _ := none
  points _ := none
  next := 0
  alive _ _ h := nomatch h
  owned _ h := nomatch h
  made _ h := nomatch h

theorem isSome_update_map (object : ℕ → Option α) (n m : ℕ) (f : α → α) :
    (Function.update object n ((object n).map f) m).isSome = (object m).isSome := by
  rcases eq_or_ne m n with rfl | hne
  · rw [Function.update_self, Option.isSome_map]
  · rw [Function.update_of_ne hne]

/-- An object changes. -/
def modify (s : Shared ι α) (n : ℕ) (f : α → α) : Shared ι α where
  object := Function.update s.object n ((s.object n).map f)
  points := s.points
  next := s.next
  alive i m h := by
    rw [isSome_update_map]
    exact s.alive i m h
  owned m h := by
    rw [isSome_update_map] at h
    exact s.owned m h
  made m h := by
    rw [isSome_update_map] at h
    exact s.made m h

theorem object_modify (s : Shared ι α) (n : ℕ) (f : α → α) :
    (s.modify n f).object = Function.update s.object n ((s.object n).map f) := rfl

/-- **What nothing points to does not exist.** -/
theorem object_eq_none {s : Shared ι α} {n : ℕ} (h : ∀ i, s.points i ≠ some n) :
    s.object n = none := by
  rw [← Option.not_isSome_iff_eq_none]
  intro hsome
  obtain ⟨i, hi⟩ := s.owned n hsome
  exact h i hi

variable [Fintype ι]

/-- The variables point elsewhere, but to what exists: everything else is destroyed. -/
def redirect (s : Shared ι α) (points : ι → Option ℕ)
    (h : ∀ i n, points i = some n → (s.object n).isSome) : Shared ι α where
  object n := if ∃ i, points i = some n then s.object n else none
  points := points
  next := s.next
  alive i n hi := by
    rw [if_pos ⟨i, hi⟩]
    exact h i n hi
  owned n hn := by
    by_contra hno
    rw [if_neg hno] at hn
    cases hn
  made n hn := by
    split_ifs at hn
    · exact s.made n hn
    · cases hn

/-- No variable points to anything. -/
def clear (s : Shared ι α) : Shared ι α := s.redirect (fun _ => none) fun _ _ h => nomatch h

/-- **What still has a variable pointing to it** stays what it is. -/
theorem object_redirect {s : Shared ι α} {points : ι → Option ℕ} (h) {i : ι} {n : ℕ}
    (hi : points i = some n) : (s.redirect points h).object n = s.object n := if_pos ⟨i, hi⟩

variable [DecidableEq ι]

/-- A variable points to nothing. -/
def reset (s : Shared ι α) (i : ι) : Shared ι α :=
  s.redirect (Function.update s.points i none) fun j n h => by
    rcases eq_or_ne j i with rfl | hne
    · rw [Function.update_self] at h
      cases h
    · rw [Function.update_of_ne hne] at h
      exact s.alive j n h

/-- A variable points to what another one points to. -/
def assign (s : Shared ι α) (i j : ι) : Shared ι α :=
  s.redirect (Function.update s.points i (s.points j)) fun k n h => by
    rcases eq_or_ne k i with rfl | hne
    · rw [Function.update_self] at h
      exact s.alive j n h
    · rw [Function.update_of_ne hne] at h
      exact s.alive k n h

/-- A variable points to a new object. -/
def make (s : Shared ι α) (i : ι) (x : α) : Shared ι α where
  object := Function.update (s.reset i).object s.next (some x)
  points := Function.update s.points i (some s.next)
  next := s.next + 1
  alive j n h := by
    rcases eq_or_ne n s.next with rfl | hne
    · rw [Function.update_self]
      rfl
    · rw [Function.update_of_ne hne]
      refine (s.reset i).alive j n ?_
      rcases eq_or_ne j i with rfl | hj
      · rw [Function.update_self] at h
        exact absurd (Option.some.inj h).symm hne
      · rw [Function.update_of_ne hj] at h
        exact (Function.update_of_ne hj _ _).trans h
  owned n h := by
    rcases eq_or_ne n s.next with rfl | hne
    · exact ⟨i, Function.update_self ..⟩
    · rw [Function.update_of_ne hne] at h
      obtain ⟨j, hj⟩ := (s.reset i).owned n h
      refine ⟨j, ?_⟩
      rcases eq_or_ne j i with rfl | hji
      · exact absurd ((Function.update_self ..).symm.trans hj) (by rintro ⟨⟩)
      · rw [Function.update_of_ne hji]
        exact (Function.update_of_ne hji _ _).symm.trans hj
  made n h := by
    rcases eq_or_ne n s.next with rfl | hne
    · exact Nat.lt_succ_self _
    · rw [Function.update_of_ne hne] at h
      exact Nat.lt_succ_of_lt ((s.reset i).made n h)

end Shared

end Protocol
