import TlshubEbpf.Lib.Program

/-! # Pre- and postconditions of programs

Run where its precondition holds, a program that meets a triple does not crash and does
not end the process, and where it returns its postcondition holds.  A program that waits
for ever meets every postcondition. -/

set_option autoImplicit false

namespace TlshubEbpf.Lib.Program

variable {W V α β : Type}

def Meets (post : α → W → Prop) : Outcome α × W → Prop
  | (.returned value, w) => post value w
  | (.blocked, _) => True
  | (.exited _, _) => False
  | (.crashed, _) => False

def Triple (pre : W → Prop) (p : Program W α) (post : α → W → Prop) : Prop :=
  ∀ w, pre w → Meets post (p w)

theorem Meets.carry {post : α → W → Prop} {post' : α → V → Prop} {outcome : Outcome α} {w : W}
    {v : V} (met : Meets post (outcome, w))
    (carried : ∀ value, outcome = .returned value → post value w → post' value v) :
    Meets post' (outcome, v) := by
  cases outcome with
  | returned value => exact carried value rfl met
  | exited code => exact met
  | crashed => exact met
  | blocked => exact met

theorem Meets.imp {post post' : α → W → Prop} {result : Outcome α × W} (met : Meets post result)
    (weaker : ∀ value w, post value w → post' value w) : Meets post' result := by
  obtain ⟨outcome, w⟩ := result
  exact met.carry fun value _ => weaker value w

theorem Meets.bind {p : Program W α} {next : α → Program W β} {middle : α → W → Prop}
    {post : β → W → Prop} {w : W} (met : Meets middle (p w))
    (rest : ∀ value w', middle value w' → Meets post (next value w')) :
    Meets post ((p >>= next) w) := by
  rw [bind_apply]
  rcases ran : p w with ⟨outcome, w'⟩
  rw [ran] at met
  cases outcome with
  | returned value => exact rest value w' met
  | exited code => exact met
  | crashed => exact met
  | blocked => exact met

theorem Triple.returned {pre : W → Prop} {p : Program W α} {post : α → W → Prop}
    (triple : Triple pre p post) (w w' : W) (value : α) (holds : pre w)
    (ran : p w = (.returned value, w')) : post value w' := by
  have met := triple w holds
  rwa [ran] at met

theorem Triple.ran {pre : W → Prop} {p : Program W α} {post : α → W → Prop}
    (triple : Triple pre p post) :
    Triple pre p fun value w' => post value w' ∧ ∃ w, pre w ∧ p w = (.returned value, w') := by
  intro w holds
  have met := triple w holds
  rcases ran : p w with ⟨outcome, w'⟩
  rw [ran] at met
  refine met.carry fun value returned post => ⟨post, w, holds, ?_⟩
  rw [ran, returned]

section Rules
variable (pre : W → Prop)

theorem triple_get (f : W → α) : Triple pre (get f) fun value w => pre w ∧ value = f w :=
  fun _ holds => ⟨holds, rfl⟩

theorem triple_bind (p : Program W α) (next : α → Program W β) (middle : α → W → Prop)
    (post : β → W → Prop) (first : Triple pre p middle)
    (rest : ∀ value, Triple (middle value) (next value) post) : Triple pre (p >>= next) post :=
  fun w holds => (first w holds).bind rest

theorem triple_ite (c : Prop) [Decidable c] (p q : Program W α) (post : α → W → Prop)
    (first : c → Triple pre p post) (second : ¬ c → Triple pre q post) :
    Triple pre (if c then p else q) post := by
  by_cases taken : c
  · rw [if_pos taken]
    exact first taken
  · rw [if_neg taken]
    exact second taken

theorem triple_conseq (pre' : W → Prop) (p : Program W α) (post post' : α → W → Prop)
    (triple : Triple pre' p post') (stronger : ∀ w, pre w → pre' w)
    (weaker : ∀ value w, post' value w → post value w) : Triple pre p post :=
  fun w holds => (triple w (stronger w holds)).imp weaker

theorem triple_of_known (fact : Prop) (p : Program W α) (post : α → W → Prop)
    (known : ∀ w, pre w → fact) (triple : fact → Triple pre p post) : Triple pre p post :=
  fun w holds => triple (known w holds) w holds

/-- What is known of the states in which the program returns may be added. -/
theorem triple_of_returned (p : Program W α) (post : α → W → Prop)
    (ends : Triple pre p fun _ _ => True)
    (returns : ∀ w, pre w → ∀ value w', p w = (.returned value, w') → post value w') :
    Triple pre p post := by
  intro w holds
  have met := ends w holds
  rcases ran : p w with ⟨outcome, w'⟩
  rw [ran] at met
  refine met.carry fun value returned _ => returns w holds value w' ?_
  rw [ran, returned]

/-- Each turn of a loop keeps the precondition or leaves with the postcondition. -/
theorem triple_repeatFor (body : Program W (Option α)) (post : α → W → Prop)
    (turn : Triple pre body fun stop w => ∀ value ∈ stop, post value w)
    (kept : Triple pre body fun stop w => stop = none → pre w) (fuel : Nat) :
    Triple pre (repeatFor body fuel) post := by
  induction fuel with
  | zero => exact fun _ _ => trivial
  | succ fuel ih =>
      intro w holds
      have stopped := turn w holds
      have again := kept w holds
      rw [repeatFor, bind_apply]
      rcases ran : body w with ⟨outcome, w'⟩
      rw [ran] at stopped again
      cases outcome with
      | returned stop =>
          cases stop with
          | some value => exact stopped value rfl
          | none => exact ih w' (again rfl)
      | exited code => exact stopped
      | crashed => exact stopped
      | blocked => exact stopped

def onPart (part : V → W) (store : V → W → V) (p : Program W α) : Program V α := fun v =>
  ((p (part v)).1, store v (p (part v)).2)

theorem triple_onPart (part : V → W) (store : V → W → V) (p : Program W α) (pre : V → Prop)
    (post : α → V → Prop)
    (inside : ∀ v, pre v → Triple (· = part v) p fun value w => post value (store v w)) :
    Triple pre (onPart part store p) post := by
  intro v holds
  have met := inside v holds (part v) rfl
  rw [onPart]
  exact met.carry fun value _ stored => stored

end Rules

/-! ## Programs that neither crash nor end the process -/

def ReturnsOrWaits (p : Program W α) : Prop := Triple (fun _ => True) p fun _ _ => True

theorem returnsOrWaits_pure (value : α) : ReturnsOrWaits (pure value : Program W α) :=
  fun _ _ => trivial

theorem returnsOrWaits_get (f : W → α) : ReturnsOrWaits (get f) := fun _ _ => trivial

theorem returnsOrWaits_modify (f : W → W) : ReturnsOrWaits (modify f) := fun _ _ => trivial

theorem returnsOrWaits_bind (p : Program W α) (next : α → Program W β) (first : ReturnsOrWaits p)
    (rest : ∀ value, ReturnsOrWaits (next value)) : ReturnsOrWaits (p >>= next) :=
  triple_bind _ p next _ _ first rest

theorem returnsOrWaits_ite (c : Prop) [Decidable c] (p q : Program W α) (first : ReturnsOrWaits p)
    (second : ReturnsOrWaits q) : ReturnsOrWaits (if c then p else q) :=
  triple_ite _ c p q _ (fun _ => first) fun _ => second

theorem returnsOrWaits_whileTrue (size : W → Nat) (body : Program W (Option α))
    (turn : ReturnsOrWaits body) : ReturnsOrWaits (whileTrue size body) := by
  intro w holds
  have anything : Triple (fun _ => True) body fun stop w => ∀ value ∈ stop, True :=
    triple_conseq _ _ _ _ _ turn (fun _ _ => trivial) fun _ _ _ _ _ => trivial
  have kept : Triple (fun _ => True) body fun stop w => stop = none → True :=
    triple_conseq _ _ _ _ _ turn (fun _ _ => trivial) fun _ _ _ _ => trivial
  exact triple_repeatFor _ body _ anything kept (size w + 1) w holds

end TlshubEbpf.Lib.Program
