import Mathlib.Data.List.Basic

/-! # Programs over an explicit state that may stop without returning

A `Program W α` maps a state to an outcome and a next state.  Besides returning
it may end the process, crash, or wait for ever in a call.  The two loop forms
are `whileTrue`, whose turns consume a measured input, and `runAll`, a sequence
of calls that goes on as long as each call returns. -/

set_option autoImplicit false

namespace TlshubEbpf.Lib

inductive Outcome (α : Type) where
  | returned (value : α)
  | exited (code : Int)
  | crashed
  | blocked
  deriving DecidableEq, Repr

def Program (W α : Type) := W → Outcome α × W

namespace Program
variable {W α β ι : Type}

def andThen (p : Program W α) (next : α → Program W β) : Program W β := fun w =>
  match p w with
  | (.returned value, w') => next value w'
  | (.exited code, w') => (.exited code, w')
  | (.crashed, w') => (.crashed, w')
  | (.blocked, w') => (.blocked, w')

instance : Monad (Program W) where
  pure value := fun w => (.returned value, w)
  bind := andThen

def get (f : W → α) : Program W α := fun w => (.returned (f w), w)

def modify (f : W → W) : Program W Unit := fun w => (.returned (), f w)

def exit (code : Int) : Program W α := fun w => (.exited code, w)

/-- Undefined behaviour that stops the process. -/
def crash : Program W α := fun w => (.crashed, w)

@[simp] theorem pure_apply (value : α) (w : W) :
    (pure value : Program W α) w = (.returned value, w) := rfl

@[simp] theorem get_apply (f : W → α) (w : W) : get f w = (.returned (f w), w) := rfl

@[simp] theorem modify_apply (f : W → W) (w : W) : modify f w = (.returned (), f w) := rfl

@[simp] theorem exit_apply (code : Int) (w : W) :
    (exit code : Program W α) w = (.exited code, w) := rfl

@[simp] theorem crash_apply (w : W) : (crash : Program W α) w = (.crashed, w) := rfl

theorem bind_apply (p : Program W α) (next : α → Program W β) (w : W) :
    (p >>= next) w =
      match p w with
      | (.returned value, w') => next value w'
      | (.exited code, w') => (.exited code, w')
      | (.crashed, w') => (.crashed, w')
      | (.blocked, w') => (.blocked, w') := rfl

/-! ## Loops whose turns consume a measured input -/

/-- At most `fuel` turns of a loop body; `none` goes round again. -/
def repeatFor (body : Program W (Option α)) : Nat → Program W α
  | 0 => fun w => (.blocked, w)
  | fuel + 1 => body >>= fun stop =>
      match stop with
      | some value => pure value
      | none => repeatFor body fuel

/-- `while (1)` around a body every turn of which shortens `size`. -/
def whileTrue (size : W → Nat) (body : Program W (Option α)) : Program W α := fun w =>
  repeatFor body (size w + 1) w

def Consumes (size : W → Nat) (body : Program W (Option α)) : Prop :=
  ∀ w w', body w = (.returned none, w') → size w' < size w

/-- Fuel beyond the size of the input changes nothing. -/
theorem repeatFor_enough (size : W → Nat) (body : Program W (Option α))
    (consumes : Consumes size body) : ∀ (fuel more : Nat) (w : W),
    size w < fuel → fuel ≤ more → repeatFor body fuel w = repeatFor body more w := by
  intro fuel
  induction fuel with
  | zero => intro more w small _; omega
  | succ fuel ih =>
      intro more w small le
      obtain ⟨more, rfl⟩ : ∃ m, more = m + 1 := ⟨more - 1, by omega⟩
      simp only [repeatFor, bind_apply]
      rcases turn : body w with ⟨outcome, w'⟩
      cases outcome with
      | returned stop =>
          cases stop with
          | some value => rfl
          | none =>
              have shorter := consumes w w' turn
              exact ih more w' (by omega) (by omega)
      | exited code => rfl
      | crashed => rfl
      | blocked => rfl

/-- One turn of the loop, then the loop again: the fuel is not visible. -/
theorem whileTrue_unroll (size : W → Nat) (body : Program W (Option α))
    (consumes : Consumes size body) (w : W) :
    whileTrue size body w =
      (body >>= fun stop =>
        match stop with
        | some value => pure value
        | none => whileTrue size body) w := by
  simp only [whileTrue, repeatFor, bind_apply]
  rcases turn : body w with ⟨outcome, w'⟩
  cases outcome with
  | returned stop =>
      cases stop with
      | some value => rfl
      | none =>
          have shorter := consumes w w' turn
          exact (repeatFor_enough size body consumes _ _ w' (by omega) (by omega)).symm
  | exited code => rfl
  | crashed => rfl
  | blocked => rfl

section Keeps
variable {γ : Type} (view : W → γ)

/-- However the program ends, it leaves the view of the state as it was. -/
def Keeps (p : Program W α) : Prop := ∀ w, view (p w).2 = view w

theorem keeps_pure (value : α) : Keeps view (pure value : Program W α) :=
  fun _ => rfl

theorem keeps_get (f : W → α) : Keeps view (get f) :=
  fun _ => rfl

theorem keeps_modify (f : W → W) (same : ∀ w, view (f w) = view w) : Keeps view (modify f) :=
  same

theorem keeps_bind (p : Program W α) (next : α → Program W β) (first : Keeps view p)
    (rest : ∀ value, Keeps view (next value)) : Keeps view (p >>= next) := by
  intro w
  have kept := first w
  rw [bind_apply]
  rcases ran : p w with ⟨outcome, w'⟩
  rw [ran] at kept
  cases outcome with
  | returned value => exact (rest value w').trans kept
  | exited code => exact kept
  | crashed => exact kept
  | blocked => exact kept

theorem keeps_ite (c : Prop) [Decidable c] (p q : Program W α) (first : Keeps view p)
    (second : Keeps view q) : Keeps view (if c then p else q) := by
  by_cases taken : c
  · rw [if_pos taken]
    exact first
  · rw [if_neg taken]
    exact second

theorem keeps_repeatFor (body : Program W (Option α)) (turn : Keeps view body) (fuel : Nat) :
    Keeps view (repeatFor body fuel) := by
  induction fuel with
  | zero => exact fun _ => rfl
  | succ fuel ih =>
      apply keeps_bind view body _ turn
      intro stop
      cases stop with
      | none => exact ih
      | some value => exact keeps_pure view value

theorem keeps_whileTrue (size : W → Nat) (body : Program W (Option α))
    (turn : Keeps view body) : Keeps view (whileTrue size body) :=
  fun w => keeps_repeatFor view body turn (size w + 1) w

end Keeps

section Appends
variable {γ : Type} (log : W → List γ) (allowed : γ → Prop)

/-- However the program ends, it has only added entries of the allowed kind. -/
def Appends (p : Program W α) : Prop :=
  ∀ w, ∃ added, log (p w).2 = log w ++ added ∧ ∀ entry ∈ added, allowed entry

theorem appends_of_keeps (p : Program W α) (kept : Keeps log p) : Appends log allowed p := by
  intro w
  refine ⟨[], ?_, ?_⟩
  · rw [List.append_nil]
    exact kept w
  · intro entry member
    cases member

theorem appends_bind_of (post : α → Prop) (p : Program W α) (next : α → Program W β)
    (returns : ∀ w w' value, p w = (.returned value, w') → post value)
    (first : Appends log allowed p)
    (rest : ∀ value, post value → Appends log allowed (next value)) :
    Appends log allowed (p >>= next) := by
  intro w
  obtain ⟨early, earlyLog, earlyAllowed⟩ := first w
  rw [bind_apply]
  rcases ran : p w with ⟨outcome, w'⟩
  rw [ran] at earlyLog
  cases outcome with
  | returned value =>
      obtain ⟨late, lateLog, lateAllowed⟩ := rest value (returns w w' value ran) w'
      refine ⟨early ++ late, ?_, ?_⟩
      · rw [← List.append_assoc, ← earlyLog]
        exact lateLog
      · intro entry member
        rcases List.mem_append.mp member with inEarly | inLate
        · exact earlyAllowed entry inEarly
        · exact lateAllowed entry inLate
  | exited code => exact ⟨early, earlyLog, earlyAllowed⟩
  | crashed => exact ⟨early, earlyLog, earlyAllowed⟩
  | blocked => exact ⟨early, earlyLog, earlyAllowed⟩

theorem appends_bind (p : Program W α) (next : α → Program W β)
    (first : Appends log allowed p) (rest : ∀ value, Appends log allowed (next value)) :
    Appends log allowed (p >>= next) :=
  appends_bind_of log allowed (fun _ => True) p next (fun _ _ _ _ => trivial) first
    fun value _ => rest value

theorem appends_mono (allowed' : γ → Prop) (more : ∀ entry, allowed entry → allowed' entry)
    (p : Program W α) (appends : Appends log allowed p) : Appends log allowed' p := by
  intro w
  obtain ⟨added, same, each⟩ := appends w
  exact ⟨added, same, fun entry member => more entry (each entry member)⟩

theorem appends_ite (c : Prop) [Decidable c] (p q : Program W α)
    (first : Appends log allowed p) (second : Appends log allowed q) :
    Appends log allowed (if c then p else q) := by
  by_cases taken : c
  · rw [if_pos taken]
    exact first
  · rw [if_neg taken]
    exact second

end Appends

/-! ## Sequences of calls -/

/-- Call after call; the first call that does not return is the last one. -/
def runAll (exec : ι → Program W α) : List ι → W → List (ι × Outcome α) × W
  | [], w => ([], w)
  | call :: rest, w =>
      match exec call w with
      | (.returned value, w') =>
          let later := runAll exec rest w'
          ((call, .returned value) :: later.1, later.2)
      | (stop, w') => ([(call, stop)], w')

def history (exec : ι → Program W α) : List ι → W → List (ι × W)
  | [], _ => []
  | call :: rest, w =>
      (call, w) ::
        match exec call w with
        | (.returned _, w') => history exec rest w'
        | _ => []

theorem mem_history_cons (exec : ι → Program W α) (call : ι) (rest : List ι) (w : W)
    (entry : ι × W) :
    entry ∈ history exec (call :: rest) w ↔
      entry = (call, w) ∨
        ∃ value w', exec call w = (.returned value, w') ∧ entry ∈ history exec rest w' := by
  rw [history, List.mem_cons]
  apply or_congr_right
  rcases exec call w with ⟨outcome, next⟩
  cases outcome with
  | returned value =>
      constructor
      · intro member
        exact ⟨value, next, rfl, member⟩
      · rintro ⟨value', w', ran, member⟩
        cases ran
        exact member
  | exited code => simp
  | crashed => simp
  | blocked => simp

theorem mem_history_singleton (exec : ι → Program W α) (call : ι) (w : W) (entry : ι × W) :
    entry ∈ history exec [call] w ↔ entry = (call, w) := by
  rw [mem_history_cons]
  simp [history]

/-- What every call keeps, if it is made where `cond` allows it, holds in every
state in which a call is made. -/
theorem history_inv (exec : ι → Program W α) (cond : ι → W → Prop) (inv : W → Prop)
    (step : ∀ call w value w', inv w → cond call w → exec call w = (.returned value, w') →
      inv w') :
    ∀ (calls : List ι) (w : W), inv w →
      (∀ entry ∈ history exec calls w, cond entry.1 entry.2) →
      ∀ entry ∈ history exec calls w, inv entry.2 := by
  intro calls
  induction calls with
  | nil => intro w _ _ entry member; contradiction
  | cons call rest ih =>
      intro w holds allowed entry member
      rcases (mem_history_cons exec call rest w entry).mp member with rfl | later
      · exact holds
      · obtain ⟨value, w', ran, inRest⟩ := later
        have here := allowed (call, w) ((mem_history_cons exec call rest w _).mpr (Or.inl rfl))
        apply ih w' (step call w value w' holds here ran) _ entry inRest
        intro next inHistory
        exact allowed next
          ((mem_history_cons exec call rest w next).mpr (Or.inr ⟨value, w', ran, inHistory⟩))

theorem runAll_cons_returned (exec : ι → Program W α) (call : ι) (rest : List ι)
    (w w' : W) (value : α) (returned : exec call w = (.returned value, w')) :
    runAll exec (call :: rest) w =
      ((call, .returned value) :: (runAll exec rest w').1, (runAll exec rest w').2) := by
  simp only [runAll, returned]

theorem runAll_cons_stopped (exec : ι → Program W α) (call : ι) (rest : List ι) (w : W)
    (stopped : ∀ value, (exec call w).1 ≠ .returned value) :
    runAll exec (call :: rest) w = ([(call, (exec call w).1)], (exec call w).2) := by
  rcases ran : exec call w with ⟨outcome, w'⟩
  rw [ran] at stopped
  cases outcome with
  | returned value => exact absurd rfl (stopped value)
  | exited code => simp only [runAll, ran]
  | crashed => simp only [runAll, ran]
  | blocked => simp only [runAll, ran]

theorem runAll_counted (exec : ι → Program W α) (inv : W → Prop) (counter : W → Nat)
    (answer : Nat → α)
    (step : ∀ call w, inv w → ∃ w', exec call w = (.returned (answer (counter w)), w') ∧
      inv w' ∧ counter w' = counter w + 1) :
    ∀ (calls : List ι) (w : W), inv w →
      (runAll exec calls w).1 =
        calls.mapIdx fun k call => (call, .returned (answer (counter w + k))) := by
  intro calls
  induction calls with
  | nil => intro w _; rfl
  | cons call rest ih =>
      intro w holds
      obtain ⟨w', ran, kept, advanced⟩ := step call w holds
      rw [runAll_cons_returned exec call rest w w' _ ran, List.mapIdx_cons, ih w' kept]
      simp only [advanced, Nat.add_zero, Nat.add_assoc, Nat.add_comm 1]

/-- Two systems that answer every call alike from related states give the same
results on every sequence of calls. -/
theorem runAll_simulation {W' : Type} (exec : ι → Program W α) (exec' : ι → Program W' α)
    (cond : ι → W → Prop) (related : W → W' → Prop)
    (step : ∀ call w w', related w w' → cond call w →
      (exec call w).1 = (exec' call w').1 ∧
        ∀ value, (exec call w).1 = .returned value →
          related (exec call w).2 (exec' call w').2) :
    ∀ (calls : List ι) (w : W) (w' : W'), related w w' →
      (∀ entry ∈ history exec calls w, cond entry.1 entry.2) →
      (runAll exec calls w).1 = (runAll exec' calls w').1 := by
  intro calls
  induction calls with
  | nil => intro w w' _ _; rfl
  | cons call rest ih =>
      intro w w' rel allowed
      have here := allowed (call, w) ((mem_history_cons exec call rest w _).mpr (Or.inl rfl))
      obtain ⟨same, next⟩ := step call w w' rel here
      by_cases returns : ∃ value, (exec call w).1 = .returned value
      · obtain ⟨value, returned⟩ := returns
        have ran : exec call w = (.returned value, (exec call w).2) := by
          rw [← returned]
        have ran' : exec' call w' = (.returned value, (exec' call w').2) := by
          rw [← returned, same]
        have later : ∀ entry ∈ history exec rest (exec call w).2, cond entry.1 entry.2 := by
          intro entry member
          exact allowed entry
            ((mem_history_cons exec call rest w entry).mpr (Or.inr ⟨value, _, ran, member⟩))
        rw [runAll_cons_returned exec call rest w _ value ran,
          runAll_cons_returned exec' call rest w' _ value ran',
          ih _ _ (next value returned) later]
      · have stopped : ∀ value, (exec call w).1 ≠ .returned value :=
          fun value eq => returns ⟨value, eq⟩
        rw [runAll_cons_stopped exec call rest w stopped,
          runAll_cons_stopped exec' call rest w' (by rw [← same]; exact stopped), same]

end Program
end TlshubEbpf.Lib
