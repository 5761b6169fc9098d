/-! # Stores into a block of memory

A block is the list of its bytes.  `memcpy` and the assignment of a field are a
`store`; `memset` is a `fill`. -/

set_option autoImplicit false

namespace TlshubEbpf.Lib

section Blocks
variable {α : Type}

def store (offset : Nat) (bytes memory : List α) : List α :=
  memory.take offset ++ bytes ++ memory.drop (offset + bytes.length)

def fill (value : α) (count : Nat) (memory : List α) : List α :=
  store 0 (List.replicate count value) memory

theorem length_store (offset : Nat) (bytes memory : List α)
    (fits : offset + bytes.length ≤ memory.length) :
    (store offset bytes memory).length = memory.length := by
  simp only [store, List.length_append, List.length_take, List.length_drop]
  omega

theorem store_start (bytes memory : List α) :
    store 0 bytes memory = bytes ++ memory.drop bytes.length := by
  simp only [store, List.take_zero, List.nil_append, Nat.zero_add]

theorem fill_eq (value : α) (count : Nat) (memory : List α) :
    fill value count memory = List.replicate count value ++ memory.drop count := by
  rw [fill, store_start, List.length_replicate]

theorem store_within (offset : Nat) (bytes first second : List α)
    (inside : offset + bytes.length ≤ first.length) :
    store offset bytes (first ++ second) = store offset bytes first ++ second := by
  have before : offset ≤ first.length := by omega
  simp only [store, List.take_append_of_le_length before, List.drop_append_of_le_length inside,
    List.append_assoc]

theorem store_beyond (bytes first second : List α) :
    store first.length bytes (first ++ second) = first ++ store 0 bytes second := by
  have consumed : first.drop (first.length + bytes.length) = [] :=
    List.drop_eq_nil_of_le (Nat.le_add_right _ _)
  rw [store_start, store, List.take_left, List.drop_append, consumed, Nat.add_sub_cancel_left,
    List.nil_append, List.append_assoc]

theorem store_over (bytes memory : List α) (whole : bytes.length = memory.length) :
    store 0 bytes memory = bytes := by
  rw [store_start, whole, List.drop_length, List.append_nil]

end Blocks
end TlshubEbpf.Lib
