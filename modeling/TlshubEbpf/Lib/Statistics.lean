import Mathlib.Algebra.Order.BigOperators.Group.List
import Mathlib.Algebra.Order.Field.Basic
import Mathlib.Order.Bounds.Basic

/-! # Least, mean and greatest of samples

A running extreme starts at a value of its own, and is the extreme of the samples
only where they reach this value. -/

set_option autoImplicit false

namespace TlshubEbpf.Lib

section Extremes
variable {α : Type} [LinearOrder α]

def lowest (start : α) (samples : List α) : α :=
  samples.foldl (fun low x => if x < low then x else low) start

def highest (start : α) (samples : List α) : α :=
  samples.foldl (fun high x => if x > high then x else high) start

theorem isLeast_lowest (start : α) (samples : List α) :
    IsLeast {x | x ∈ start :: samples} (lowest start samples) := by
  induction samples generalizing start with
  | nil => simp [lowest, IsLeast, lowerBounds]
  | cons x rest ih =>
      obtain ⟨member, below⟩ := ih (if x < start then x else start)
      have belowNext := below List.mem_cons_self
      rw [show lowest (if x < start then x else start) rest = lowest start (x :: rest) from rfl]
        at member below belowNext
      constructor
      · rcases List.mem_cons.mp member with same | later
        · rw [Set.mem_ofPred_eq, same]
          split <;> simp
        · exact List.mem_cons_of_mem _ (List.mem_cons_of_mem _ later)
      · intro y inside
        have least : (if x < start then x else start) ≤ start ∧
            (if x < start then x else start) ≤ x := by
          split
          · rename_i less
            exact ⟨less.le, le_rfl⟩
          · rename_i more
            exact ⟨le_rfl, not_lt.mp more⟩
        rcases List.mem_cons.mp inside with rfl | inside
        · exact belowNext.trans least.1
        · rcases List.mem_cons.mp inside with rfl | later
          · exact belowNext.trans least.2
          · exact below (List.mem_cons_of_mem _ later)

theorem isGreatest_highest (start : α) (samples : List α) :
    IsGreatest {x | x ∈ start :: samples} (highest start samples) :=
  isLeast_lowest (α := αᵒᵈ) start samples

variable [Zero α]

/-- The least sample, 0 if there is none. -/
def least : List α → α
  | [] => 0
  | x :: rest => lowest x rest

def greatest : List α → α
  | [] => 0
  | x :: rest => highest x rest

theorem isLeast_least (samples : List α) (some : samples ≠ []) :
    IsLeast {x | x ∈ samples} (least samples) := by
  cases samples with
  | nil => exact absurd rfl some
  | cons x rest => exact isLeast_lowest x rest

theorem isGreatest_greatest (samples : List α) (some : samples ≠ []) :
    IsGreatest {x | x ∈ samples} (greatest samples) := by
  cases samples with
  | nil => exact absurd rfl some
  | cons x rest => exact isGreatest_highest x rest

theorem lowest_eq_least_iff (start : α) (samples : List α) (some : samples ≠ []) :
    lowest start samples = least samples ↔ ∃ x ∈ samples, x ≤ start := by
  obtain ⟨member, below⟩ := isLeast_lowest start samples
  have leastOf := isLeast_least samples some
  constructor
  · intro same
    refine ⟨least samples, leastOf.1, ?_⟩
    rw [← same]
    exact below List.mem_cons_self
  · rintro ⟨x, inside, small⟩
    refine IsLeast.unique ⟨?_, fun y later => below (List.mem_cons_of_mem _ later)⟩ leastOf
    rcases List.mem_cons.mp member with same | later
    · have reached : x = lowest start samples :=
        le_antisymm (small.trans same.ge) (below (List.mem_cons_of_mem _ inside))
      exact reached ▸ inside
    · exact later

theorem highest_eq_greatest_iff (start : α) (samples : List α) (some : samples ≠ []) :
    highest start samples = greatest samples ↔ ∃ x ∈ samples, start ≤ x := by
  cases samples with
  | nil => exact absurd rfl some
  | cons x rest => exact lowest_eq_least_iff (α := αᵒᵈ) start (x :: rest) some

theorem greatest_concat (samples : List α) (x : α) (nonneg : 0 ≤ x) :
    greatest (samples ++ [x]) = if x > greatest samples then x else greatest samples := by
  cases samples with
  | nil =>
      show x = if 0 < x then x else 0
      split
      · rfl
      · rename_i notPositive
        exact le_antisymm (not_lt.mp notPositive) nonneg
  | cons first rest =>
      show highest first (rest ++ [x]) = _
      rw [highest, List.foldl_append]
      rfl

end Extremes

section Mean
variable {α : Type} [Field α] [LinearOrder α] [IsStrictOrderedRing α]

def mean (samples : List α) : α := samples.sum / samples.length

omit [LinearOrder α] [IsStrictOrderedRing α] in
theorem mean_nil : mean ([] : List α) = 0 := by simp [mean]

theorem length_pos (samples : List α) (some : samples ≠ []) : (0 : α) < samples.length :=
  Nat.cast_pos.mpr (List.length_pos_of_ne_nil some)

theorem least_le_mean (samples : List α) : least samples ≤ mean samples := by
  by_cases none : samples = []
  · rw [none, mean_nil]
    exact le_rfl
  · have below := (isLeast_least samples none).2
    rw [mean, le_div_iff₀ (length_pos samples none), mul_comm, ← nsmul_eq_mul]
    exact List.card_nsmul_le_sum samples (least samples) fun x inside => below inside

theorem mean_le_greatest (samples : List α) : mean samples ≤ greatest samples := by
  by_cases none : samples = []
  · rw [none, mean_nil]
    exact le_rfl
  · have above := (isGreatest_greatest samples none).2
    rw [mean, div_le_iff₀ (length_pos samples none), mul_comm, ← nsmul_eq_mul]
    exact List.sum_le_card_nsmul samples (greatest samples) fun x inside => above inside

end Mean

/-! ## Samples that are not negative, of which the positive ones are counted -/

section Positive
variable {α : Type} [Field α] [LinearOrder α] (samples : List α)
  (nonneg : ∀ x ∈ samples, 0 ≤ x)
include nonneg

theorem sum_filter_pos : (samples.filter fun x => decide (0 < x)).sum = samples.sum := by
  induction samples with
  | nil => rfl
  | cons x rest ih =>
      have atRest := ih fun y inside => nonneg y (List.mem_cons_of_mem x inside)
      by_cases positive : 0 < x
      · rw [List.filter_cons_of_pos (by simpa using positive), List.sum_cons, List.sum_cons,
          atRest]
      · have zero : x = 0 := le_antisymm (not_lt.mp positive) (nonneg x List.mem_cons_self)
        rw [List.filter_cons_of_neg (by simpa using positive), List.sum_cons, atRest, zero,
          zero_add]

theorem highest_filter_pos :
    highest 0 (samples.filter fun x => decide (0 < x)) = greatest samples := by
  by_cases none : samples = []
  · rw [none]
    rfl
  · obtain ⟨member, above⟩ := isGreatest_highest 0 (samples.filter fun x => decide (0 < x))
    obtain ⟨inside, bound⟩ := isGreatest_greatest samples none
    apply le_antisymm
    · rcases List.mem_cons.mp member with zero | counted
      · rw [zero]
        exact nonneg _ inside
      · exact bound (List.mem_of_mem_filter counted)
    · by_cases positive : 0 < greatest samples
      · exact above (List.mem_cons_of_mem _
          (List.mem_filter.mpr ⟨inside, decide_eq_true positive⟩))
      · exact (not_lt.mp positive).trans (above List.mem_cons_self)

omit nonneg in
/-- The minimum over the positive samples is the least sample of all only where
none is 0. -/
theorem lowest_filter_pos_iff (start : α) (room : 0 < start) (some : samples ≠ []) :
    lowest start (samples.filter fun x => decide (0 < x)) = least samples ↔
      (∀ x ∈ samples, 0 < x) ∧ ∃ x ∈ samples, x ≤ start := by
  have unfiltered : (∀ x ∈ samples, 0 < x) →
      (samples.filter fun x => decide (0 < x)) = samples := fun positive =>
    List.filter_eq_self.mpr fun x inside => decide_eq_true (positive x inside)
  have iffPositive : (∀ x ∈ samples, 0 < x) →
      (lowest start (samples.filter fun x => decide (0 < x)) = least samples ↔
        ∃ x ∈ samples, x ≤ start) := by
    intro positive
    rw [unfiltered positive]
    exact lowest_eq_least_iff start samples some
  constructor
  · intro same
    have positive : 0 < least samples := by
      rw [← same]
      have member := (isLeast_lowest start (samples.filter fun x => decide (0 < x))).1
      rcases List.mem_cons.mp member with atStart | counted
      · rw [atStart]
        exact room
      · exact of_decide_eq_true (List.mem_filter.mp counted).2
    have allPositive : ∀ x ∈ samples, 0 < x := fun x inside =>
      positive.trans_le ((isLeast_least samples some).2 inside)
    exact ⟨allPositive, (iffPositive allPositive).mp same⟩
  · rintro ⟨positive, small⟩
    exact (iffPositive positive).mpr small

end Positive

structure Tally (α : Type) where
  total : α
  lowest : α
  highest : α

section Tally
variable {α : Type} [LT α] [DecidableLT α]

/-- `add` is the addition that the loop uses, exact or rounded. -/
def Tally.countWith (add : α → α → α) (tally : Tally α) (x : α) : Tally α :=
  { total := add tally.total x
    lowest := if x < tally.lowest then x else tally.lowest
    highest := if x > tally.highest then x else tally.highest }

def Tally.count [Add α] : Tally α → α → Tally α := Tally.countWith (· + ·)

theorem Tally.countWith_above (add : α → α → α) (tally : Tally α) (x : α)
    (above : ¬ x < tally.lowest) :
    tally.countWith add x =
      { tally with
        total := add tally.total x
        highest := if x > tally.highest then x else tally.highest } := by
  rw [Tally.countWith, if_neg above]

end Tally

section Fold
variable {α : Type}

theorem foldl_countWith [LinearOrder α] (add : α → α → α) (samples : List α) (tally : Tally α) :
    samples.foldl (Tally.countWith add) tally =
      ⟨samples.foldl add tally.total, lowest tally.lowest samples,
        highest tally.highest samples⟩ := by
  induction samples generalizing tally with
  | nil => rfl
  | cons x rest ih =>
      rw [List.foldl_cons, ih (tally.countWith add x)]
      rfl

theorem foldl_add_eq [AddMonoid α] (samples : List α) (start : α) :
    samples.foldl (· + ·) start = start + samples.sum := by
  have shifted := @List.foldl_assoc α (· + ·) _ samples start 0
  rw [add_zero] at shifted
  rw [List.sum_eq_foldl, shifted]

theorem foldl_count [Field α] [LinearOrder α] (samples : List α) (tally : Tally α) :
    samples.foldl Tally.count tally =
      ⟨tally.total + samples.sum, lowest tally.lowest samples,
        highest tally.highest samples⟩ := by
  rw [Tally.count, foldl_countWith, foldl_add_eq]

end Fold

/-- A loop over records, of which some give a sample, as far as `view` sees it. -/
theorem view_foldl {S R T X : Type} (step : S → R → S) (view : S → T) (sample : R → Option X)
    (count : T → X → T)
    (agree : ∀ state record,
      view (step state record) = (sample record).elim (view state) (count (view state)))
    (records : List R) (state : S) :
    view (records.foldl step state) = (records.filterMap sample).foldl count (view state) := by
  rw [List.foldl_filterMap]
  refine (List.foldl_hom view fun state record => ?_).symm
  rw [agree]
  cases sample record <;> rfl

theorem toNat_foldl_add (words : List UInt64) (start : UInt64)
    (fits : start.toNat + (words.map UInt64.toNat).sum < 2 ^ 64) :
    (words.foldl (· + ·) start).toNat = start.toNat + (words.map UInt64.toNat).sum := by
  induction words generalizing start with
  | nil => rfl
  | cons word rest ih =>
      rw [List.map_cons, List.sum_cons, ← Nat.add_assoc] at fits ⊢
      have here : (start + word).toNat = start.toNat + word.toNat := by
        rw [UInt64.toNat_add]
        exact Nat.mod_eq_of_lt (by omega)
      rw [List.foldl_cons, ih (start + word) (by rwa [here]), here]

end TlshubEbpf.Lib
