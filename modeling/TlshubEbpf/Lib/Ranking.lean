import Mathlib.Data.List.Sort
import Mathlib.Order.Bounds.Basic

/-! # Rankings

The entries of a ranking are sorted; the first of them is the best. -/

set_option autoImplicit false

namespace TlshubEbpf.Lib

section Sorted
variable {α : Type} [LinearOrder α] (entries : List α)

theorem isLeast_head_insertionSort (best : α)
    (first : (entries.insertionSort (· ≤ ·)).head? = some best) :
    IsLeast {entry | entry ∈ entries} best := by
  obtain ⟨later, sorted⟩ := List.head?_eq_some_iff.mp first
  have members : ∀ entry, entry ∈ entries ↔ entry ∈ best :: later := by
    intro entry
    rw [← sorted, List.mem_insertionSort]
  have ordered := List.pairwise_insertionSort (· ≤ ·) entries
  rw [sorted, List.pairwise_cons] at ordered
  refine ⟨(members best).mpr List.mem_cons_self, fun entry among => ?_⟩
  rcases List.mem_cons.mp ((members entry).mp among) with rfl | after
  · exact le_refl _
  · exact ordered.1 entry after

theorem isGreatest_head_insertionSort (best : α)
    (first : (entries.insertionSort (· ≥ ·)).head? = some best) :
    IsGreatest {entry | entry ∈ entries} best := by
  have least := isLeast_head_insertionSort (α := αᵒᵈ) entries best first
  exact least

end Sorted

theorem head_insertionSort_isSome {α : Type} (r : α → α → Prop) [DecidableRel r]
    (entries : List α) (filled : entries ≠ []) :
    ∃ best, (entries.insertionSort r).head? = some best := by
  have sorted : entries.insertionSort r ≠ [] := by
    intro empty
    have length := List.length_insertionSort r entries
    rw [empty] at length
    exact filled (List.length_eq_zero_iff.mp length.symm)
  exact ⟨_, List.head?_eq_some_head sorted⟩

/-- The least entry of two groups is one of the first if and only if each of the
second has one of the first before it. -/
theorem isLeast_union_mem_iff {α : Type} [PartialOrder α] (first second : Set α) (best : α)
    (least : IsLeast (first ∪ second) best) :
    best ∈ first ↔ ∀ entry ∈ second, ∃ before ∈ first, before ≤ entry := by
  constructor
  · intro member entry among
    exact ⟨best, member, least.2 (Or.inr among)⟩
  · intro preceded
    rcases least.1 with member | member
    · exact member
    · obtain ⟨before, among, le⟩ := preceded best member
      exact le_antisymm le (least.2 (Or.inl among)) ▸ among

end TlshubEbpf.Lib
