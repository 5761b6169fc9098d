import Mathlib.Data.List.Count
import Mathlib.Data.BitVec

/-! # Nonces that count the messages of a sender

Several senders seal messages in any order.  Each has a key and a base nonce of
`w` bits, and adds to the base how many messages it has sealed before.  The
ordinal of a message among those of its sender decides whether two messages are
sealed alike. -/

set_option autoImplicit false

namespace TlshubEbpf.Lib

section Seal
variable {ι κ : Type} [DecidableEq ι] {w : Nat}

/-- How many of the earlier messages have the same sender as message `i`. -/
def ordinal (sends : List ι) (i : Nat) (bound : i < sends.length) : Nat :=
  (sends.take i).count sends[i]

def sealedWith (key : ι → κ) (base : ι → BitVec w) (sends : List ι) (i : Nat)
    (bound : i < sends.length) : κ × BitVec w :=
  (key sends[i], base sends[i] + BitVec.ofNat w (ordinal sends i bound))

theorem counter_eq_iff (base : BitVec w) (m n : Nat) :
    base + BitVec.ofNat w m = base + BitVec.ofNat w n ↔ m % 2 ^ w = n % 2 ^ w := by
  rw [BitVec.add_right_inj, ← BitVec.toNat_inj, BitVec.toNat_ofNat, BitVec.toNat_ofNat]

/-- Senders with one key and one base seal alike what they seal at one ordinal. -/
theorem sealedWith_eq_iff (key : ι → κ) (base : ι → BitVec w) (sends : List ι)
    (sameKey : ∀ s t, key s = key t) (sameBase : ∀ s t, base s = base t) (i j : Nat)
    (boundI : i < sends.length) (boundJ : j < sends.length) :
    sealedWith key base sends i boundI = sealedWith key base sends j boundJ ↔
      ordinal sends i boundI % 2 ^ w = ordinal sends j boundJ % 2 ^ w := by
  rw [sealedWith, sealedWith, Prod.mk.injEq, sameBase sends[i] sends[j], counter_eq_iff]
  exact and_iff_right (sameKey _ _)

theorem ordinal_lt (sends : List ι) (i j : Nat) (before : i < j) (boundJ : j < sends.length)
    (same : sends[i] = sends[j]) :
    ordinal sends i (by omega) < ordinal sends j boundJ := by
  have boundI : i < sends.length := by omega
  have earlier : (sends.take (i + 1)).count sends[j] ≤ (sends.take j).count sends[j] := by
    apply List.Sublist.count_le
    exact List.take_sublist_take_left (by omega)
  rw [List.take_succ_eq_append_getElem boundI, List.count_append, same, List.count_singleton_self]
    at earlier
  rw [ordinal, ordinal, same]
  omega

theorem ordinal_lt_count (sends : List ι) (i : Nat) (bound : i < sends.length) :
    ordinal sends i bound < sends.count sends[i] := by
  have split : sends = sends.take i ++ sends[i] :: sends.drop (i + 1) := by
    rw [← List.drop_eq_getElem_cons bound, List.take_append_drop]
  have counted := congrArg (List.count sends[i]) split
  rw [List.count_append, List.count_cons_self] at counted
  rw [ordinal]
  omega

theorem sealedWith_ne (key : ι → κ) (base : ι → BitVec w) (sends : List ι) (i j : Nat)
    (before : i < j) (boundJ : j < sends.length) (same : sends[i] = sends[j])
    (few : sends.count sends[j] ≤ 2 ^ w) :
    sealedWith key base sends i (by omega) ≠ sealedWith key base sends j boundJ := by
  intro reused
  have lt := ordinal_lt sends i j before boundJ same
  have lt_count := ordinal_lt_count sends j boundJ
  have nonces := congrArg Prod.snd reused
  simp only [sealedWith] at nonces
  rw [same, counter_eq_iff, Nat.mod_eq_of_lt (by omega), Nat.mod_eq_of_lt (by omega)] at nonces
  omega

end Seal
end TlshubEbpf.Lib
