import Mathlib.Data.List.Basic
import Mathlib.Data.List.Perm.Basic

/-! # Handles that are acquired and released

The uses of handles in the order in which they are made.  A handle is released only while
it is held, and the uses are settled when nothing is held any more. -/

set_option autoImplicit false

namespace TlshubEbpf.Lib

inductive Use (H : Type) where
  | acquire (handle : H)
  | release (handle : H)
  deriving DecidableEq

section Ledger
variable {H : Type} [DecidableEq H]

def useStep (held : List H) : Use H → Option (List H)
  | .acquire handle => some (handle :: held)
  | .release handle => if handle ∈ held then some (held.erase handle) else none

/-- Nothing is released that is not held, and nothing is held in the end. -/
def Settled (uses : List (Use H)) : Prop := uses.foldlM useStep [] = some []

instance (uses : List (Use H)) : Decidable (Settled uses) :=
  inferInstanceAs (Decidable (_ = _))

def Holding (uses : List (Use H)) (held : List H) : Prop :=
  ∃ now, uses.foldlM useStep [] = some now ∧ now.Perm held

theorem holding_start : Holding ([] : List (Use H)) [] := ⟨[], rfl, .refl []⟩

variable {uses : List (Use H)} {held : List H}

theorem Holding.perm {held' : List H} (holding : Holding uses held) (same : held.Perm held') :
    Holding uses held' := by
  obtain ⟨now, reached, perm⟩ := holding
  exact ⟨now, reached, perm.trans same⟩

theorem Holding.acquire (holding : Holding uses held) (handle : H) :
    Holding (uses ++ [.acquire handle]) (handle :: held) := by
  obtain ⟨now, reached, perm⟩ := holding
  refine ⟨handle :: now, ?_, perm.cons handle⟩
  rw [List.foldlM_append, reached]
  rfl

theorem Holding.insert {held' : List H} (holding : Holding uses (held ++ held')) (handle : H) :
    Holding (uses ++ [.acquire handle]) (held ++ handle :: held') :=
  (holding.acquire handle).perm List.perm_middle.symm

theorem Holding.release {handle : H} (holding : Holding uses (handle :: held)) :
    Holding (uses ++ [.release handle]) held := by
  obtain ⟨now, reached, perm⟩ := holding
  have among : handle ∈ now := perm.mem_iff.mpr List.mem_cons_self
  refine ⟨now.erase handle, ?_, ?_⟩
  · rw [List.foldlM_append, reached]
    show (if handle ∈ now then some (now.erase handle) else none) >>= pure = _
    rw [if_pos among]
    rfl
  · have erased := perm.erase handle
    rwa [List.erase_cons_head] at erased

theorem Holding.settled (holding : Holding uses []) : Settled uses := by
  obtain ⟨now, reached, perm⟩ := holding
  rw [Settled, reached, perm.eq_nil]

theorem Holding.releaseAll (handles : List H) (holding : Holding uses (handles ++ held)) :
    Holding (uses ++ handles.map .release) held := by
  induction handles generalizing uses with
  | nil => simpa using holding
  | cons handle rest ih =>
      have first : Holding (uses ++ [.release handle]) (rest ++ held) := holding.release
      have released := ih first
      rwa [List.append_assoc] at released

omit [DecidableEq H] in
theorem acquire_ne_release (handle other : H) : Use.acquire handle ≠ Use.release other := by
  intro same
  cases same

theorem count_held (now start : List H) (reached : uses.foldlM useStep start = some now)
    (handle : H) :
    now.count handle + uses.count (.release handle) =
      start.count handle + uses.count (.acquire handle) := by
  induction uses generalizing start with
  | nil =>
      rw [← Option.some.inj reached]
      rfl
  | cons use rest ih =>
      rw [List.foldlM_cons] at reached
      obtain ⟨next, step, later⟩ := Option.bind_eq_some_iff.mp reached
      have counted := ih next later
      cases use with
      | acquire other =>
          cases step
          by_cases same : other = handle
          · subst same
            rw [List.count_cons_self] at counted
            rw [List.count_cons_self,
              List.count_cons_of_ne (acquire_ne_release other other)]
            omega
          · have distinct : (Use.acquire other) ≠ .acquire handle :=
              fun equal => same (Use.acquire.inj equal)
            rw [List.count_cons_of_ne same] at counted
            rw [List.count_cons_of_ne distinct,
              List.count_cons_of_ne (acquire_ne_release other handle)]
            omega
      | release other =>
          simp only [useStep] at step
          split at step
          · rename_i among
            cases step
            by_cases same : other = handle
            · subst same
              have some := List.count_pos_iff.mpr among
              rw [List.count_erase_self] at counted
              rw [List.count_cons_self,
                List.count_cons_of_ne (acquire_ne_release other other).symm]
              omega
            · have distinct : (Use.release other) ≠ .release handle :=
                fun equal => same (Use.release.inj equal)
              rw [List.count_erase_of_ne (Ne.symm same)] at counted
              rw [List.count_cons_of_ne distinct,
                List.count_cons_of_ne (acquire_ne_release handle other).symm]
              omega
          · cases step

/-- Each handle is released as often as it is acquired, and never ahead of that. -/
theorem Settled.balanced (settled : Settled uses) (handle : H) :
    uses.count (.release handle) = uses.count (.acquire handle) ∧
      ∀ before after, uses = before ++ after →
        before.count (.release handle) ≤ before.count (.acquire handle) := by
  constructor
  · have counted := count_held [] [] settled handle
    simpa using counted
  · intro before after split
    rw [Settled, split, List.foldlM_append] at settled
    obtain ⟨now, reached, -⟩ := Option.bind_eq_some_iff.mp settled
    have counted := count_held now [] reached handle
    rw [List.count_nil] at counted
    omega

end Ledger

end TlshubEbpf.Lib
