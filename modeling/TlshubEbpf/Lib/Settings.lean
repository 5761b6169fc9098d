import Mathlib.Data.List.Basic

/-! # Settings

A configuration is built up item by item, until an item is refused.  An item that is
accepted sets some of the fields and keeps the others. -/

set_option autoImplicit false

namespace TlshubEbpf.Lib

section Settings
variable {Config Item Refusal : Type}

def refused : Except Refusal Config → Option Refusal
  | .ok _ => none
  | .error refusal => some refusal

variable (set : Config → Item → Except Refusal Config)

/-- If no item depends on those before it, the first one that is refused on its own decides. -/
theorem refused_foldlM (refusal : Item → Option Refusal)
    (independent : ∀ config item, refused (set config item) = refusal item)
    (items : List Item) (config : Config) :
    refused (items.foldlM set config) = items.findSome? refusal := by
  induction items generalizing config with
  | nil => rfl
  | cons item rest ih =>
      rw [List.foldlM_cons, List.findSome?_cons, ← independent config item]
      cases set config item with
      | ok next => exact ih next
      | error refusal => rfl

theorem foldlM_kept (inv : Config → Prop)
    (kept : ∀ config item next, inv config → set config item = .ok next → inv next)
    (items : List Item) (config final : Config) (start : inv config)
    (accepted : items.foldlM set config = .ok final) : inv final := by
  induction items generalizing config with
  | nil =>
      cases accepted
      exact start
  | cons item rest ih =>
      rw [List.foldlM_cons] at accepted
      cases taken : set config item with
      | error refusal =>
          rw [taken] at accepted
          cases accepted
      | ok next =>
          rw [taken] at accepted
          exact ih next (kept config item next start taken) accepted

theorem foldlM_field {α : Type} (field : Config → α) (value : Item → Option α)
    (sets : ∀ config item next, set config item = .ok next →
      field next = (value item).getD (field config))
    (items : List Item) (config final : Config)
    (accepted : items.foldlM set config = .ok final) :
    field final = (items.filterMap value).getLastD (field config) := by
  induction items generalizing config with
  | nil =>
      cases accepted
      rfl
  | cons item rest ih =>
      rw [List.foldlM_cons] at accepted
      cases taken : set config item with
      | error refusal =>
          rw [taken] at accepted
          cases accepted
      | ok next =>
          rw [taken] at accepted
          rw [ih next accepted, sets config item next taken]
          cases setting : value item with
          | none => rw [List.filterMap_cons_none setting, Option.getD_none]
          | some new => rw [List.filterMap_cons_some setting, List.getLastD_cons, Option.getD_some]

end Settings

end TlshubEbpf.Lib
