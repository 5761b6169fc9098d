import TlshubEbpf.Bench.Outcomes

/-! # Whether a counted connection has been echoed completely

The receive loop ends well in three ways: all has come back, a `poll` times out
after all has come back, or the peer closes the connection.  Only the last one is
not compared with what has been sent. -/

set_option autoImplicit false

namespace TlshubEbpf.Bench

open Lib

def CompleteEcho (size : DataSize) (stats : ConnStats) : Prop :=
  stats.bytesSent.toNat = size.bytes ∧ stats.bytesSent ≤ stats.bytesReceived

instance (size : DataSize) (stats : ConnStats) : Decidable (CompleteEcho size stats) :=
  inferInstanceAs (Decidable (_ ∧ _))

/-- A `recv` returns 0 before as many bytes have come back as were sent. -/
def closesEarly (sent received : UInt64) : List (PollResult × IoResult) → Bool
  | [] => false
  | (.timedOut, _) :: _ => false
  | (.failed, _) :: _ => false
  | (.interrupted, _) :: rest => closesEarly sent received rest
  | (.ready, .interrupted) :: rest => closesEarly sent received rest
  | (.ready, .failed) :: _ => false
  | (.ready, .bytes count) :: rest =>
      if count = 0 then decide (received < sent)
      else if received + UInt64.ofNat count ≥ sent then false
      else closesEarly sent (received + UInt64.ofNat count) rest

def ConnectionScript.ClosedEarly (size : DataSize) (script : ConnectionScript) : Prop :=
  ∃ totalSent ∈ (sendLoop size.bytes 0 script.sends).join,
    closesEarly (UInt64.ofNat totalSent) 0 script.turns = true

instance (size : DataSize) (script : ConnectionScript) : Decidable (script.ClosedEarly size) :=
  inferInstanceAs (Decidable (∃ totalSent ∈ _, _))

def sendsFit (dataSize totalSent : Nat) : List IoResult → Prop
  | [] => True
  | result :: rest =>
      totalSent < dataSize → ∀ next ∈ sendTurn totalSent result,
        next ≤ dataSize ∧ sendsFit dataSize next rest

instance decidableSendsFit (dataSize : Nat) :
    ∀ (totalSent : Nat) (sends : List IoResult), Decidable (sendsFit dataSize totalSent sends)
  | _, [] => inferInstanceAs (Decidable True)
  | totalSent, result :: rest =>
      have := fun next => decidableSendsFit dataSize next rest
      inferInstanceAs (Decidable (totalSent < dataSize → ∀ next ∈ sendTurn totalSent result, _))

section Parts
variable (size : DataSize) (script : ConnectionScript)

theorem sendLoop_all (dataSize : Nat) (sends : List IoResult) (totalSent final : Nat)
    (within : totalSent ≤ dataSize) (fits : sendsFit dataSize totalSent sends)
    (ran : sendLoop dataSize totalSent sends = some (some final)) : final = dataSize := by
  induction sends generalizing totalSent with
  | nil =>
      unfold sendLoop at ran
      split at ran
      · cases ran
      · cases ran
        omega
  | cons result rest ih =>
      unfold sendLoop at ran
      split at ran
      · rename_i less
        cases turn : sendTurn totalSent result with
        | none => simp [turn] at ran
        | some next =>
            rw [turn] at ran
            obtain ⟨below, later⟩ := fits less next turn
            exact ih next below later ran
      · cases ran
        omega

theorem receiveLoop_complete_iff (turns : List (PollResult × IoResult))
    (stats final : ConnStats) (ran : receiveLoop turns stats = some (0, final)) :
    final.bytesSent = stats.bytesSent ∧
      (final.bytesSent ≤ final.bytesReceived ↔
        closesEarly stats.bytesSent stats.bytesReceived turns = false) := by
  induction turns generalizing stats with
  | nil => cases ran
  | cons turn rest ih =>
      obtain ⟨polled, received⟩ := turn
      unfold receiveLoop at ran
      unfold closesEarly
      cases polled with
      | interrupted =>
          simp only [pollTurn, Option.getD_some] at ran
          exact ih stats ran
      | failed => simp [pollTurn] at ran
      | timedOut =>
          simp only [pollTurn] at ran
          by_cases less : stats.bytesReceived < stats.bytesSent
          · rw [if_pos less] at ran
            cases ran
          · rw [if_neg less] at ran
            cases ran
            exact ⟨rfl, iff_of_true (UInt64.not_lt.mp less) rfl⟩
      | ready =>
          simp only [pollTurn, Option.getD_none] at ran
          cases received with
          | interrupted => exact ih stats ran
          | failed => cases ran
          | bytes count =>
              unfold recvTurn at ran
              dsimp only at ran ⊢
              by_cases none : count = 0
              · rw [if_pos none] at ran ⊢
                cases ran
                exact ⟨rfl, UInt64.not_lt.symm.trans decide_eq_false_iff_not.symm⟩
              · rw [if_neg none] at ran ⊢
                by_cases enough : stats.bytesReceived + UInt64.ofNat count ≥ stats.bytesSent
                · rw [if_pos enough] at ran ⊢
                  cases ran
                  exact ⟨rfl, iff_of_true enough rfl⟩
                · rw [if_neg enough] at ran ⊢
                  exact ih { stats with bytesReceived := stats.bytesReceived + UInt64.ofNat count }
                    ran

theorem tcpClientClose_keeps (stats final : ConnStats) (ret : Int)
    (ran : tcpClientClose script stats = some (ret, final)) :
    final.bytesSent = stats.bytesSent ∧ final.bytesReceived = stats.bytesReceived := by
  unfold tcpClientClose at ran
  cases drained : drainLoop script.drains with
  | none => simp [drained] at ran
  | some done =>
      simp only [drained, Option.some.injEq, Prod.mk.injEq] at ran
      obtain ⟨-, rfl⟩ := ran
      unfold closeStats
      dsimp only
      split
      · exact ⟨rfl, rfl⟩
      · exact ⟨rfl, rfl⟩

theorem runSingleConnection_returned (stats final : ConnStats)
    (ran : runSingleConnection size script stats = some (0, final)) :
    ∃ totalSent received, sendLoop size.bytes 0 script.sends = some (some totalSent) ∧
      ∃ sent : ConnStats, sent.bytesSent = UInt64.ofNat totalSent ∧
        sent.bytesReceived = stats.bytesReceived ∧
        receiveLoop script.turns { sent with state := .receiving } = some (0, received) ∧
        tcpClientClose script received = some (0, final) := by
  rcases runSingleConnection_cases size script stats final 0 ran with
    ⟨failed, _⟩ | ⟨totalSent, sent, received, receiveRet, came⟩
  · cases failed
  · rcases came.ended with ⟨rfl, _, closeRan⟩ | ⟨_, failed, _⟩
    · exact ⟨totalSent, received, came.all, sent, came.bytesSent, came.bytesReceived, came.loop,
        closeRan⟩
    · cases failed

end Parts

/-- A connection counted as successful has been echoed completely if and only if its
peer did not close it early. -/
theorem countedConnection_complete_iff (size : DataSize) (script : ConnectionScript) (i : Nat)
    (final : ConnStats) (fits : sendsFit size.bytes 0 script.sends)
    (ran : runSingleConnection size script (freshStats i) = some (0, final)) :
    (settledStats 0 final).state = .closed ∧
      (∀ metrics, (updateMetrics metrics (settledStats 0 final)).successfulConnections =
        metrics.successfulConnections + 1) ∧
      (CompleteEcho size final ↔ ¬ script.ClosedEarly size) := by
  obtain ⟨totalSent, received, all, sent, bytesSent, bytesReceived, receiveRan, closeRan⟩ :=
    runSingleConnection_returned size script (freshStats i) final ran
  have closed : (settledStats 0 final).state = .closed :=
    (tcpClientClose_closes script received final 0 closeRan).2
  refine ⟨closed, ?_, ?_⟩
  · intro metrics
    have counted := updateMetrics_closed metrics (settledStats 0 final) closed
    simp only [GlobalMetrics.counts, Prod.mk.injEq] at counted
    exact counted.2.1
  · have whole := sendLoop_all size.bytes script.sends 0 totalSent (Nat.zero_le _) fits all
    obtain ⟨sameSent, sameReceived⟩ := tcpClientClose_keeps script received final 0 closeRan
    obtain ⟨kept, complete_iff⟩ := receiveLoop_complete_iff script.turns
      { sent with state := .receiving } received receiveRan
    have none : sent.bytesReceived = 0 := bytesReceived
    dsimp only at kept complete_iff
    have sentAll : final.bytesSent.toNat = size.bytes := by
      have bounded := size.bounded
      rw [sameSent, kept, bytesSent, whole, UInt64.toNat_ofNat_of_lt' (by unfold UInt64.size; omega)]
    have closedEarly_iff : script.ClosedEarly size ↔
        closesEarly sent.bytesSent sent.bytesReceived script.turns = true := by
      rw [bytesSent, none]
      simp [ConnectionScript.ClosedEarly, all]
    rw [CompleteEcho, and_iff_right sentAll, sameSent, sameReceived, complete_iff,
      closedEarly_iff, Bool.not_eq_true]

/-- The byte comes back in the third turn of the loop. -/
def interruptedEcho : ConnectionScript :=
  scriptReading [(.interrupted, .failed), (.ready, .interrupted), (.ready, .bytes 1)]

theorem interruptedEcho_complete :
    ∃ final, runSingleConnection oneByte interruptedEcho (freshStats 0) = some (0, final) ∧
      CompleteEcho oneByte final := by
  have returned : (runSingleConnection oneByte interruptedEcho (freshStats 0)).map Prod.fst =
      some 0 := by decide
  obtain ⟨⟨ret, final⟩, ran, rfl⟩ := Option.map_eq_some_iff.mp returned
  have counted := countedConnection_complete_iff oneByte interruptedEcho 0 final (by decide) ran
  exact ⟨final, ran, counted.2.2.mpr (by decide)⟩

def closedAtOnce : ConnectionScript := scriptReading [(.ready, .bytes 0)]

theorem closedConnection_counted :
    ∃ final, runSingleConnection oneByte closedAtOnce (freshStats 0) = some (0, final) ∧
      (updateMetrics initMetrics (settledStats 0 final)).successfulConnections = 1 ∧
      final.bytesReceived = 0 ∧ ¬ CompleteEcho oneByte final := by
  have returned : (runSingleConnection oneByte closedAtOnce (freshStats 0)).map
      (fun result => (result.1, result.2.state, result.2.bytesSent, result.2.bytesReceived)) =
        some (0, .closed, 1, 0) := by decide +kernel
  obtain ⟨⟨ret, final⟩, ran, facts⟩ := Option.map_eq_some_iff.mp returned
  simp only [Prod.mk.injEq] at facts
  obtain ⟨rfl, closed, sent, received⟩ := facts
  have counted := updateMetrics_closed initMetrics (settledStats 0 final) closed
  simp only [GlobalMetrics.counts, Prod.mk.injEq] at counted
  refine ⟨final, ran, counted.2.1, received, ?_⟩
  rintro ⟨-, complete⟩
  rw [sent, received] at complete
  exact absurd complete (by decide)

end TlshubEbpf.Bench
