import Mathlib.Data.List.Basic

/-! # A variable that holds the latest of the handles acquired

Each acquisition opens a handle and stores it over the one before.  A release
closes the handle that is stored. -/

set_option autoImplicit false

namespace TlshubEbpf.Lib

structure Slot (H : Type) where
  stored : Option H
  opened : List H

namespace Slot
variable {H : Type}

def acquire (slot : Slot H) (handle : H) : Slot H :=
  ⟨some handle, handle :: slot.opened⟩

def release [DecidableEq H] (slot : Slot H) : Slot H :=
  match slot.stored with
  | some handle => ⟨none, slot.opened.erase handle⟩
  | none => slot

def Holds (slot : Slot H) : Prop :=
  ∃ handle ∈ slot.stored, handle ∈ slot.opened

instance [DecidableEq H] (slot : Slot H) : Decidable slot.Holds :=
  inferInstanceAs (Decidable (∃ handle ∈ slot.stored, _))

/-- The handles of so many acquisitions are open, and the latest is stored. -/
structure Acquired (slot : Slot H) (times : Nat) : Prop where
  opened : slot.opened.length = times
  stored : slot.stored = none ∨ slot.Holds
  holds_iff : slot.Holds ↔ times ≠ 0

variable {slot : Slot H} {times : Nat}

theorem acquire_acquired (handle : H) (acquired : slot.Acquired times) :
    (slot.acquire handle).Acquired (times + 1) := by
  have holds : (slot.acquire handle).Holds := ⟨handle, rfl, List.mem_cons_self⟩
  exact ⟨congrArg (· + 1) acquired.opened, Or.inr holds, fun _ => Nat.succ_ne_zero _,
    fun _ => holds⟩

variable [DecidableEq H]

theorem release_length (acquired : slot.Acquired times) :
    slot.release.opened.length = times - 1 := by
  unfold release
  cases stored : slot.stored with
  | none =>
      have empty : times = 0 := by
        by_contra some
        obtain ⟨handle, held, _⟩ := acquired.holds_iff.mpr some
        rw [stored] at held
        cases held
      rw [acquired.opened, empty]
  | some handle =>
      have holds : slot.Holds :=
        acquired.stored.resolve_left (stored ▸ Option.some_ne_none handle)
      obtain ⟨held, same, member⟩ := holds
      rw [stored] at same
      obtain rfl := Option.some.inj same
      rw [List.length_erase_of_mem member, acquired.opened]

theorem release_acquired (acquired : slot.Acquired times) (once : times ≤ 1) :
    slot.release.Acquired 0 := by
  have none : slot.release.stored = none := by
    unfold release
    cases stored : slot.stored with
    | none => exact stored
    | some handle => rfl
  have vacant : ¬ slot.release.Holds := by
    rintro ⟨handle, held, _⟩
    rw [none] at held
    cases held
  refine ⟨?_, Or.inl none, fun holds => absurd holds vacant, fun absurdity => absurd rfl absurdity⟩
  rw [release_length acquired]
  omega

end Slot
end TlshubEbpf.Lib
