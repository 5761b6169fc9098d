import Mathlib.Data.List.AList

/-! # Maps of a fixed capacity

A map that takes a new key only while it holds fewer entries than its capacity,
and a new value of a key it holds at any time. -/

set_option autoImplicit false

namespace TlshubEbpf.Lib

section Map
variable {K V : Type} [DecidableEq K] {capacity : Nat}

structure BoundedMap (K V : Type) [DecidableEq K] (capacity : Nat) where
  entries : AList (fun _ : K => V)
  fits : entries.keys.length ≤ capacity

namespace BoundedMap

def empty : BoundedMap K V capacity :=
  ⟨∅, by simp⟩

def lookup (m : BoundedMap K V capacity) (key : K) : Option V :=
  m.entries.lookup key

def HasRoom (m : BoundedMap K V capacity) (key : K) : Prop :=
  key ∈ m.entries ∨ m.entries.keys.length < capacity

instance (m : BoundedMap K V capacity) (key : K) : Decidable (m.HasRoom key) :=
  inferInstanceAs (Decidable (key ∈ m.entries ∨ m.entries.keys.length < capacity))

theorem insert_fits (m : BoundedMap K V capacity) (key : K) (value : V)
    (room : m.HasRoom key) : (m.entries.insert key value).keys.length ≤ capacity := by
  have fits := m.fits
  rw [AList.keys_insert, List.length_cons]
  cases room with
  | inl held =>
      have positive : 0 < m.entries.keys.length := List.length_pos_of_mem (AList.mem_keys.mp held)
      rw [List.length_erase_of_mem (AList.mem_keys.mp held)]
      omega
  | inr free =>
      have erased : (m.entries.keys.erase key).length ≤ m.entries.keys.length :=
        List.length_erase_le
      omega

def update (m : BoundedMap K V capacity) (key : K) (value : V) :
    Option (BoundedMap K V capacity) :=
  if room : m.HasRoom key then
    some ⟨m.entries.insert key value, m.insert_fits key value room⟩
  else
    none

/-- The map after an update whose failure goes unnoticed. -/
def updateOrKeep (m : BoundedMap K V capacity) (key : K) (value : V) : BoundedMap K V capacity :=
  (m.update key value).getD m

theorem hasRoom_of_lookup (m : BoundedMap K V capacity) (key : K) (value : V)
    (found : m.lookup key = some value) : m.HasRoom key := by
  refine Or.inl (AList.lookup_isSome.mp ?_)
  rw [show m.entries.lookup key = some value from found]
  rfl

theorem lookup_of_not_hasRoom (m : BoundedMap K V capacity) (key : K)
    (full : ¬ m.HasRoom key) : m.lookup key = none :=
  AList.lookup_eq_none.mpr fun held => full (Or.inl held)

theorem lookup_updateOrKeep_self (m : BoundedMap K V capacity) (key : K) (value : V)
    (room : m.HasRoom key) : (m.updateOrKeep key value).lookup key = some value := by
  unfold updateOrKeep update
  rw [dif_pos room]
  exact AList.lookup_insert m.entries

theorem lookup_updateOrKeep_other (m : BoundedMap K V capacity) (key other : K) (value : V)
    (distinct : other ≠ key) : (m.updateOrKeep key value).lookup other = m.lookup other := by
  unfold updateOrKeep update
  split
  · exact AList.lookup_insert_ne distinct
  · rfl

theorem keys_updateOrKeep_new (m : BoundedMap K V capacity) (key : K) (value : V)
    (new : key ∉ m.entries) (free : m.entries.keys.length < capacity) :
    (m.updateOrKeep key value).entries.keys = key :: m.entries.keys := by
  have room : m.HasRoom key := Or.inr free
  unfold updateOrKeep update
  rw [dif_pos room]
  change (m.entries.insert key value).keys = _
  rw [AList.keys_insert, List.erase_of_not_mem (AList.mem_keys.not.mp new)]

theorem updateOrKeep_full (m : BoundedMap K V capacity) (key : K) (value : V)
    (full : ¬ m.HasRoom key) : m.updateOrKeep key value = m := by
  unfold updateOrKeep update
  rw [dif_neg full]
  rfl

theorem lookup_empty (key : K) : (empty : BoundedMap K V capacity).lookup key = none :=
  AList.lookup_empty key

theorem lookup_isSome (m : BoundedMap K V capacity) (key : K) :
    (m.lookup key).isSome ↔ key ∈ m.entries :=
  AList.lookup_isSome

theorem mem_updateOrKeep_other (m : BoundedMap K V capacity) (key other : K) (value : V)
    (distinct : other ≠ key) : other ∈ (m.updateOrKeep key value).entries ↔ other ∈ m.entries := by
  rw [← lookup_isSome, ← lookup_isSome, lookup_updateOrKeep_other m key other value distinct]

theorem mem_of_lookup (m : BoundedMap K V capacity) (key : K) (value : V)
    (found : m.lookup key = some value) : key ∈ m.entries := by
  rw [← lookup_isSome, found]
  rfl

theorem hasRoom_of_included {W : Type} (m : BoundedMap K V capacity)
    (other : BoundedMap K W capacity) (included : ∀ key ∈ m.entries, key ∈ other.entries)
    (key : K) (held : key ∈ other.entries) : m.HasRoom key := by
  by_cases known : key ∈ m.entries
  · exact Or.inl known
  · refine Or.inr ?_
    have nodup : (key :: m.entries.keys).Nodup :=
      List.nodup_cons.mpr ⟨AList.mem_keys.not.mp known, m.entries.keys_nodup⟩
    have subset : key :: m.entries.keys ⊆ other.entries.keys := by
      intro k member
      rcases List.mem_cons.mp member with rfl | member
      · exact AList.mem_keys.mp held
      · exact AList.mem_keys.mp (included k (AList.mem_keys.mpr member))
    have shorter := nodup.length_le_of_subset subset
    rw [List.length_cons] at shorter
    exact Nat.lt_of_lt_of_le shorter other.fits

end BoundedMap
end Map
end TlshubEbpf.Lib
