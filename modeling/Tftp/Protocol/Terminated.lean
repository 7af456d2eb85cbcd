import Mathlib.Algebra.Group.Nat.Even
import Mathlib.Data.List.Count

/-!
# Texts made of terminated pieces

A text over any alphabet, cut at the occurrences of a terminator. `Protocol.cut` lists
the pieces in front of the terminators; what stands behind the last terminator is no
piece, and a text without such a remainder is `Protocol.Terminated`. Those texts are
exactly the concatenations of terminated pieces (`Protocol.flatMap_cut`).

Everything is proved along `Protocol.cutInduction`, which takes one piece off the
front, as a parser of such a text does. `Protocol.pairs` groups the pieces of a text
that alternates between names and values.
-/

namespace Protocol

variable {α β : Type*} {z : α} {piece rest text : List α}

/-- Nothing stands behind the last terminator. -/
def Terminated (z : α) (text : List α) : Prop := ∀ x ∈ text.getLast?, x = z

@[simp] theorem terminated_nil : Terminated z ([] : List α) := by
  simp [Terminated]

theorem terminated_append : Terminated z (piece ++ z :: rest) ↔ Terminated z rest := by
  rcases List.eq_nil_or_concat rest with rfl | ⟨front, x, rfl⟩
  · simp [Terminated]
  · simp [Terminated, List.getLast?_append, List.getLast?_cons]

theorem not_terminated (hne : text ≠ []) (h : z ∉ text) : ¬ Terminated z text := by
  intro ht
  have hlast := List.getLast?_eq_some_getLast hne
  exact h (ht _ hlast ▸ List.getLast_mem hne)

variable [DecidableEq α]

instance : Decidable (Terminated z text) :=
  inferInstanceAs (Decidable (∀ x ∈ text.getLast?, x = z))

/-- The pieces of a text, each of them followed by a terminator. -/
def cut (z : α) (text : List α) : List (List α) := (text.splitOn z).dropLast

/-- **Induction along the pieces**: a text has no terminator, or it is a piece, a
terminator and a shorter text. -/
theorem cutInduction {motive : List α → Prop} (z : α)
    (remainder : ∀ text, z ∉ text → motive text)
    (piece : ∀ piece rest, z ∉ piece → motive rest → motive (piece ++ z :: rest))
    (text : List α) : motive text := by
  induction hn : text.length using Nat.strong_induction_on generalizing text with
  | _ n ih =>
    by_cases h : z ∈ text
    · obtain ⟨front, rest, rfl, hf⟩ := List.eq_append_cons_of_mem h
      refine piece front rest hf (ih rest.length ?_ rest rfl)
      rw [← hn, List.length_append, List.length_cons]
      omega
    · exact remainder text h

theorem cut_of_notMem (h : z ∉ text) : cut z text = [] := by
  rw [cut, List.splitOn_eq_singleton h]
  rfl

@[simp] theorem cut_nil : cut z ([] : List α) = [] := cut_of_notMem List.not_mem_nil

theorem cut_append (h : z ∉ piece) : cut z (piece ++ z :: rest) = piece :: cut z rest := by
  rw [cut, List.splitOn_append_cons_self_of_not_mem h,
    List.dropLast_cons_of_ne_nil (List.splitOn_ne_nil _ _), cut]

theorem count_append (h : z ∉ piece) : (piece ++ z :: rest).count z = rest.count z + 1 := by
  rw [List.count_append, List.count_eq_zero_of_not_mem h, List.count_cons_self, Nat.zero_add]

/-- There is one piece for every terminator. -/
theorem length_cut (z : α) (text : List α) : (cut z text).length = text.count z := by
  induction text using cutInduction z with
  | remainder text h => rw [cut_of_notMem h, List.count_eq_zero_of_not_mem h, List.length_nil]
  | piece front rest h ih => rw [cut_append h, count_append h, List.length_cons, ih]

/-- A piece contains no terminator. -/
theorem notMem_of_mem_cut (h : piece ∈ cut z text) : z ∉ piece := by
  induction text using cutInduction z with
  | remainder text ht => simp [cut_of_notMem ht] at h
  | piece front rest hf ih =>
    rw [cut_append hf, List.mem_cons] at h
    rcases h with rfl | h
    · exact hf
    · exact ih h

/-- The elements of a list, two by two. -/
def pairs : List β → List (β × β)
  | name :: value :: l => (name, value) :: pairs l
  | _ => []

theorem flatMap_pairs : ∀ {l : List β}, Even l.length →
    (pairs l).flatMap (fun x => [x.1, x.2]) = l
  | [], _ => rfl
  | [_], h => absurd h (by simp)
  | name :: value :: l, h => by
    have hl : Even l.length := by
      simpa [Nat.even_add_one] using h
    rw [pairs, List.flatMap_cons, flatMap_pairs hl]
    rfl

/-- What stands in a pair stood in the list. -/
theorem mem_of_mem_pairs {x : β × β} : ∀ {l : List β}, x ∈ pairs l → x.1 ∈ l ∧ x.2 ∈ l
  | [], h => by simp [pairs] at h
  | [_], h => by simp [pairs] at h
  | name :: value :: l, h => by
    rw [pairs, List.mem_cons] at h
    rcases h with rfl | h
    · simp
    · have ih := mem_of_mem_pairs h
      exact ⟨by simp [ih.1], by simp [ih.2]⟩

end Protocol
