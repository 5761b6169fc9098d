/-! # Transitions of a run

A run takes the events of a list one after the other and stops at the first that
cannot happen.  What holds at each of its transitions is compared with a
condition on the state before the transition and on its event, along an
invariant that the condition keeps. -/

set_option autoImplicit false

namespace TlshubEbpf.Lib

structure Transition (S E : Type) where
  before : S
  event : E
  after : S

section Runs
variable {S E : Type}

def transitions (step : S → E → Option S) : S → List E → List (Transition S E)
  | _, [] => []
  | state, event :: rest =>
      match step state event with
      | none => []
      | some next => ⟨state, event, next⟩ :: transitions step next rest

theorem transitions_append (step : S → E → Option S) (state next : S) (first rest : List E)
    (reached : first.foldlM step state = some next) :
    transitions step state (first ++ rest) =
      transitions step state first ++ transitions step next rest := by
  induction first generalizing state with
  | nil =>
      rw [Option.some.inj (show some state = some next from reached)]
      rfl
  | cons event first ih =>
      rw [List.foldlM_cons] at reached
      cases taken : step state event with
      | none => simp [taken] at reached
      | some middle =>
          rw [taken] at reached
          simp [transitions, taken, ih middle reached]

theorem transitions_taken (step : S → E → Option S) (state : S) (events : List E) :
    ∀ t ∈ transitions step state events, step t.before t.event = some t.after := by
  induction events generalizing state with
  | nil =>
      intro t member
      cases member
  | cons event rest ih =>
      unfold transitions
      cases taken : step state event with
      | none =>
          intro t member
          cases member
      | some next => exact List.forall_mem_cons.mpr ⟨taken, ih next⟩

def Reaches (step : S → E → Option S) (start state : S) : Prop :=
  ∃ events : List E, events.foldlM step start = some state

theorem reaches_start (step : S → E → Option S) (start : S) : Reaches step start start :=
  ⟨[], rfl⟩

theorem reaches_step (step : S → E → Option S) (start state next : S) (event : E)
    (reached : Reaches step start state) (taken : step state event = some next) :
    Reaches step start next := by
  obtain ⟨events, run⟩ := reached
  refine ⟨events ++ [event], ?_⟩
  simp [List.foldlM_append, run, taken]

theorem reaches_inv (step : S → E → Option S) (inv : S → Prop)
    (kept : ∀ state event next, inv state → step state event = some next → inv next)
    (start state : S) (started : inv start) (reached : Reaches step start state) : inv state := by
  obtain ⟨events, run⟩ := reached
  induction events generalizing start with
  | nil =>
      rw [← Option.some.inj run]
      exact started
  | cons event rest ih =>
      rw [List.foldlM_cons] at run
      obtain ⟨next, taken, run⟩ := Option.bind_eq_some_iff.mp run
      exact ih next (kept start event next started taken) run

variable (step : S → E → Option S) (inv : S → Prop) (cond : S → E → Prop)
  (good : S → E → S → Prop)

/-- Where the condition and the property agree at every transition out of an
invariant state, a run has the property throughout if and only if it meets the
condition throughout. -/
theorem transitions_good_iff
    (agree : ∀ state event next, inv state → step state event = some next →
      (good state event next ↔ cond state event))
    (kept : ∀ state event next, inv state → cond state event →
      step state event = some next → inv next)
    (state : S) (start : inv state) (events : List E) :
    (∀ t ∈ transitions step state events, good t.before t.event t.after) ↔
      ∀ t ∈ transitions step state events, cond t.before t.event := by
  induction events generalizing state with
  | nil => simp [transitions]
  | cons event rest ih =>
      unfold transitions
      cases taken : step state event with
      | none => simp
      | some next =>
          simp only [List.forall_mem_cons]
          rw [agree state event next start taken]
          constructor
          · intro throughout
            have started := kept state event next start throughout.1 taken
            exact ⟨throughout.1, (ih next started).mp throughout.2⟩
          · intro throughout
            have started := kept state event next start throughout.1 taken
            exact ⟨throughout.1, (ih next started).mpr throughout.2⟩

theorem transitions_inv
    (kept : ∀ state event next, inv state → cond state event →
      step state event = some next → inv next)
    (state : S) (start : inv state) (events : List E)
    (throughout : ∀ t ∈ transitions step state events, cond t.before t.event) :
    ∀ t ∈ transitions step state events, inv t.before ∧ inv t.after := by
  induction events generalizing state with
  | nil =>
      intro t member
      cases member
  | cons event rest ih =>
      unfold transitions at throughout ⊢
      cases taken : step state event with
      | none =>
          intro t member
          cases member
      | some next =>
          rw [taken] at throughout
          obtain ⟨here, later⟩ := List.forall_mem_cons.mp throughout
          have started := kept state event next start here taken
          exact List.forall_mem_cons.mpr ⟨⟨start, started⟩, ih next started later⟩

/-- The first of the events that ends the run is the last one taken. -/
structure EndsAt (ends : E → Prop) (events before : List E) (last : E) : Prop where
  split : ∃ after, events = before ++ last :: after
  goesOn : ∀ event ∈ before, ¬ ends event
  ends : ends last

theorem EndsAt.here {ends : E → Prop} {event : E} (rest : List E) (last : ends event) :
    EndsAt ends (event :: rest) [] event :=
  ⟨⟨rest, rfl⟩, fun _ none => absurd none List.not_mem_nil, last⟩

theorem EndsAt.later {ends : E → Prop} {event : E} {rest before : List E} {last : E}
    (later : EndsAt ends rest before last) (goesOn : ¬ ends event) :
    EndsAt ends (event :: rest) (event :: before) last := by
  obtain ⟨after, split⟩ := later.split
  exact ⟨⟨after, congrArg (event :: ·) split⟩, List.forall_mem_cons.mpr ⟨goesOn, later.goesOn⟩,
    later.ends⟩

end Runs
end TlshubEbpf.Lib
