import Mathlib.Data.List.Basic

/-! # Programs in flight

Interleaved programs are kept in a list.  One of them takes a step: it is replaced
by what is left of it, or leaves the list where nothing is. -/

set_option autoImplicit false

namespace TlshubEbpf.Lib

section Settle
variable {L : Type}

def settle (inFlight : List L) (position : Nat) (rest : Option L) : List L :=
  match rest with
  | some program => inFlight.set position program
  | none => inFlight.eraseIdx position

theorem countP_settle (p : L → Bool) (inFlight : List L) (position : Nat) (program : L)
    (found : inFlight[position]? = some program) (rest : Option L) :
    (settle inFlight position rest).countP p + [program].countP p =
      inFlight.countP p + rest.toList.countP p := by
  induction inFlight generalizing position with
  | nil => simp at found
  | cons first others ih =>
      cases position with
      | zero =>
          rw [List.getElem?_cons_zero] at found
          obtain rfl := Option.some.inj found
          cases rest with
          | none =>
              simp only [settle, List.eraseIdx_cons_zero, List.countP_cons, List.countP_nil,
                Option.toList_none]
              omega
          | some left =>
              simp only [settle, List.set_cons_zero, List.countP_cons, List.countP_nil,
                Option.toList_some]
              omega
      | succ position =>
          rw [List.getElem?_cons_succ] at found
          have kept := ih position found
          cases rest with
          | none =>
              simp only [settle, List.eraseIdx_cons_succ, List.countP_cons] at kept ⊢
              omega
          | some left =>
              simp only [settle, List.set_cons_succ, List.countP_cons] at kept ⊢
              omega

end Settle
end TlshubEbpf.Lib
