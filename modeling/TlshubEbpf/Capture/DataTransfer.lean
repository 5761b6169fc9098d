import Mathlib.Algebra.BigOperators.Group.List.Basic
import Mathlib.Algebra.Field.Rat
import Mathlib.Data.List.Induction
import Mathlib.Tactic.FieldSimp
import Mathlib.Tactic.Ring
import TlshubEbpf.Capture.MetricsInvariant

/-! # Bytes and throughput of a connection (`perf_metrics_record_data_transfer`)

The record of a connection is compared with the sequence of its transfers.  The
counters are both zero as long as no transfer has carried a byte, and the time of
the first packet is taken anew until then. -/

set_option autoImplicit false

namespace TlshubEbpf.Capture

open Lib

structure Transfer where
  bytesSent : UInt64
  bytesReceived : UInt64
  first : Timespec
  last : Timespec

def Transfer.record (transfer : Transfer) (cm : ConnectionMetrics) : ConnectionMetrics :=
  recordTransfer transfer.bytesSent transfer.bytesReceived transfer.first transfer.last cm

def Transfer.carries (transfer : Transfer) : Bool :=
  decide (transfer.bytesSent ≠ 0 ∨ transfer.bytesReceived ≠ 0)

def totalSent (transfers : List Transfer) : ℕ :=
  (transfers.map (·.bytesSent.toNat)).sum

def totalReceived (transfers : List Transfer) : ℕ :=
  (transfers.map (·.bytesReceived.toNat)).sum

/-- The first call that carried something, else the last one. -/
def measuredFrom (transfers : List Transfer) : Option Transfer :=
  (transfers.find? Transfer.carries).or transfers.getLast?

def clockReadings (transfers : List Transfer) : List Int :=
  transfers.flatMap fun transfer => [transfer.first.ns, transfer.last.ns]

structure TransfersExact (transfers : List Transfer) (cm : ConnectionMetrics) : Prop where
  sent : cm.bytesSent.toNat = totalSent transfers
  received : cm.bytesReceived.toNat = totalReceived transfers
  first : ∀ transfer, measuredFrom transfers = some transfer →
    cm.firstDataTime = transfer.first
  last : ∀ transfer, transfers.getLast? = some transfer → cm.lastDataTime = transfer.last
  throughput : cm.throughputMbps =
    if 100000000 < cm.lastDataTime.ns - cm.firstDataTime.ns then
      8000 * ((totalSent transfers + totalReceived transfers : ℕ) : ℚ) /
        ((cm.lastDataTime.ns - cm.firstDataTime.ns : ℤ) : ℚ)
    else 0

def firstPacketTime (transfer : Transfer) (cm : ConnectionMetrics) : Timespec :=
  if cm.bytesSent = 0 ∧ cm.bytesReceived = 0 then transfer.first else cm.firstDataTime

theorem record_eq (transfer : Transfer) (cm : ConnectionMetrics) :
    transfer.record cm =
      { cm with
        bytesSent := cm.bytesSent + transfer.bytesSent
        bytesReceived := cm.bytesReceived + transfer.bytesReceived
        firstDataTime := firstPacketTime transfer cm
        lastDataTime := transfer.last
        throughputMbps :=
          if perfTimeDiffNs (firstPacketTime transfer cm) transfer.last > 100000000 then
            ((cm.bytesSent + transfer.bytesSent +
                (cm.bytesReceived + transfer.bytesReceived)).toNat : ℚ) * 8 /
              (((perfTimeDiffNs (firstPacketTime transfer cm) transfer.last).toNat : ℚ) / 1000000000 *
                1000000)
          else cm.throughputMbps } := by
  unfold Transfer.record recordTransfer firstPacketTime
  by_cases fresh : cm.bytesSent = 0 ∧ cm.bytesReceived = 0
  · simp only [if_pos fresh]
    split <;> rfl
  · simp only [if_neg fresh]
    split <;> rfl

/-- Megabits for each second, from bytes and nanoseconds. -/
theorem megabits_eq (bytes nanoseconds : ℚ) :
    bytes * 8 / (nanoseconds / 1000000000 * 1000000) = 8000 * bytes / nanoseconds := by
  by_cases none : nanoseconds = 0
  · rw [none]
    simp
  · field_simp
    ring

theorem record_throughput (transfer : Transfer) (cm : ConnectionMetrics) (total : ℕ)
    (started : (firstPacketTime transfer cm).SinceBoot) (finished : transfer.last.SinceBoot)
    (advances : (firstPacketTime transfer cm).ns ≤ transfer.last.ns)
    (bytes : (cm.bytesSent + transfer.bytesSent +
      (cm.bytesReceived + transfer.bytesReceived)).toNat = total) :
    (transfer.record cm).throughputMbps =
      if 100000000 < transfer.last.ns - (firstPacketTime transfer cm).ns then
        8000 * (total : ℚ) / ((transfer.last.ns - (firstPacketTime transfer cm).ns : ℤ) : ℚ)
      else cm.throughputMbps := by
  have difference := perfTimeDiffNs_sinceBoot _ _ started finished advances
  have exact : ((perfTimeDiffNs (firstPacketTime transfer cm) transfer.last).toNat : ℚ) =
      ((transfer.last.ns - (firstPacketTime transfer cm).ns : ℤ) : ℚ) := by
    rw [← difference, Int.cast_natCast]
  have past : perfTimeDiffNs (firstPacketTime transfer cm) transfer.last > 100000000 ↔
      100000000 < transfer.last.ns - (firstPacketTime transfer cm).ns := by
    rw [gt_iff_lt, UInt64.lt_iff_toNat_lt, ← difference]
    show 100000000 < _ ↔ _
    omega
  rw [record_eq]
  dsimp only
  rw [megabits_eq, exact, bytes]
  simp only [past]

/-! ## A sequence of transfers -/

def Uncarried (transfers : List Transfer) : Prop := transfers.find? Transfer.carries = none

section Sequence
variable (transfers : List Transfer)

theorem uncarried_iff : Uncarried transfers ↔ totalSent transfers = 0 ∧ totalReceived transfers = 0 := by
  induction transfers with
  | nil => exact ⟨fun _ => ⟨rfl, rfl⟩, fun _ => rfl⟩
  | cons transfer rest ih =>
      have sent := UInt64.toNat_inj (a := transfer.bytesSent) (b := 0)
      have received := UInt64.toNat_inj (a := transfer.bytesReceived) (b := 0)
      simp only [UInt64.toNat_zero] at sent received
      simp only [Uncarried, totalSent, totalReceived, List.map_cons, List.sum_cons] at ih ⊢
      rw [Nat.add_eq_zero_iff, Nat.add_eq_zero_iff, sent, received]
      by_cases carries : transfer.carries = true
      · rw [List.find?_cons_of_pos carries]
        simp only [Transfer.carries, decide_eq_true_eq] at carries
        constructor
        · intro impossible
          cases impossible
        · rintro ⟨⟨noneSent, -⟩, noneReceived, -⟩
          exact absurd carries (by simp [noneSent, noneReceived])
      · rw [List.find?_cons_of_neg carries, ih]
        simp only [Transfer.carries, decide_eq_true_eq, not_or, not_not] at carries
        simp only [carries, true_and]

variable (transfer : Transfer)

theorem totalSent_concat :
    totalSent (transfers ++ [transfer]) = totalSent transfers + transfer.bytesSent.toNat := by
  simp [totalSent]

theorem totalReceived_concat :
    totalReceived (transfers ++ [transfer]) =
      totalReceived transfers + transfer.bytesReceived.toNat := by
  simp [totalReceived]

theorem measuredFrom_idle (idle : Uncarried transfers) :
    measuredFrom (transfers ++ [transfer]) = some transfer := by
  rw [measuredFrom, List.find?_append, idle, Option.none_or, List.getLast?_concat]
  by_cases carries : transfer.carries = true
  · rw [List.find?_cons_of_pos carries]
    rfl
  · rw [List.find?_cons_of_neg carries]
    rfl

theorem measuredFrom_busy (busy : ¬ Uncarried transfers) :
    ∃ begun ∈ transfers, measuredFrom transfers = some begun ∧
      measuredFrom (transfers ++ [transfer]) = some begun := by
  obtain ⟨begun, found⟩ := Option.ne_none_iff_exists'.mp busy
  refine ⟨begun, List.mem_of_find?_eq_some found, ?_, ?_⟩
  · rw [measuredFrom, found]
    rfl
  · rw [measuredFrom, List.find?_append, found]
    rfl

end Sequence

structure Untouched (cm : ConnectionMetrics) : Prop where
  sent : cm.bytesSent = 0
  received : cm.bytesReceived = 0
  first : cm.firstDataTime = zeroTime
  last : cm.lastDataTime = zeroTime
  throughput : cm.throughputMbps = 0

theorem transfersExact_nil (cm : ConnectionMetrics) (untouched : Untouched cm) :
    TransfersExact [] cm where
  sent := by rw [untouched.sent]; rfl
  received := by rw [untouched.received]; rfl
  first := fun _ none => nomatch none
  last := fun _ none => nomatch none
  throughput := by
    rw [untouched.throughput, untouched.first, untouched.last, Int.sub_self]
    rfl

section Step
variable (transfers : List Transfer) (transfer : Transfer) (cm : ConnectionMetrics)
  (soFar : TransfersExact transfers cm)
  (advances : (clockReadings (transfers ++ [transfer])).Pairwise (· ≤ ·))
  (sinceBoot : ∀ t ∈ transfers ++ [transfer], t.first.SinceBoot ∧ t.last.SinceBoot)
  (small : totalSent (transfers ++ [transfer]) + totalReceived (transfers ++ [transfer]) < 2 ^ 64)
include soFar

theorem counters_zero_iff : cm.bytesSent = 0 ∧ cm.bytesReceived = 0 ↔ Uncarried transfers := by
  rw [uncarried_iff, ← soFar.sent, ← soFar.received, ← UInt64.toNat_inj, ← UInt64.toNat_inj]
  rfl

theorem firstPacketTime_eq : ∀ begun, measuredFrom (transfers ++ [transfer]) = some begun →
    firstPacketTime transfer cm = begun.first := by
  intro begun measured
  by_cases idle : Uncarried transfers
  · rw [measuredFrom_idle transfers transfer idle] at measured
    rw [firstPacketTime, if_pos ((counters_zero_iff transfers cm soFar).mpr idle),
      Option.some.inj measured]
  · obtain ⟨other, -, before, after⟩ := measuredFrom_busy transfers transfer idle
    rw [after] at measured
    rw [firstPacketTime, if_neg fun zero => idle ((counters_zero_iff transfers cm soFar).mp zero),
      soFar.first other before, Option.some.inj measured]

include advances

omit soFar in
theorem readings_le (other : Transfer) (member : other ∈ transfers) :
    other.first.ns ≤ transfer.last.ns ∧ other.last.ns ≤ transfer.last.ns := by
  rw [clockReadings, List.flatMap_append, List.pairwise_append] at advances
  have later := advances.2.2
  have last : transfer.last.ns ∈
      [transfer].flatMap fun transfer => [transfer.first.ns, transfer.last.ns] := by simp
  constructor
  · exact later _ (List.mem_flatMap.mpr ⟨other, member, by simp⟩) _ last
  · exact later _ (List.mem_flatMap.mpr ⟨other, member, by simp⟩) _ last

omit soFar in
theorem own_readings_le : transfer.first.ns ≤ transfer.last.ns := by
  rw [clockReadings, List.flatMap_append, List.pairwise_append] at advances
  simpa using advances.2.1

include sinceBoot

theorem firstPacketTime_bounds :
    (firstPacketTime transfer cm).SinceBoot ∧
      (firstPacketTime transfer cm).ns ≤ transfer.last.ns := by
  by_cases idle : Uncarried transfers
  · have time := firstPacketTime_eq transfers transfer cm soFar transfer
      (measuredFrom_idle transfers transfer idle)
    rw [time]
    exact ⟨(sinceBoot transfer (by simp)).1, own_readings_le transfers transfer advances⟩
  · obtain ⟨begun, member, -, after⟩ := measuredFrom_busy transfers transfer idle
    rw [firstPacketTime_eq transfers transfer cm soFar begun after]
    exact ⟨(sinceBoot begun (List.mem_append_left _ member)).1,
      (readings_le transfers transfer advances begun member).1⟩

omit sinceBoot in
theorem throughput_zero (below : ¬ 100000000 < transfer.last.ns - (firstPacketTime transfer cm).ns) :
    cm.throughputMbps = 0 := by
  rw [soFar.throughput]
  by_cases idle : Uncarried transfers
  · obtain ⟨sent, received⟩ := (uncarried_iff transfers).mp idle
    rw [sent, received]
    split <;> simp
  · obtain ⟨begun, member, before, after⟩ := measuredFrom_busy transfers transfer idle
    have some : transfers ≠ [] := List.ne_nil_of_mem member
    have time := firstPacketTime_eq transfers transfer cm soFar begun after
    have first := soFar.first begun before
    have last := soFar.last _ (List.getLast?_eq_some_getLast some)
    have earlier := (readings_le transfers transfer advances _
      (List.getLast_mem some)).2
    rw [time] at below
    rw [first, last, if_neg (by omega)]

include small

theorem transfersExact_concat :
    TransfersExact (transfers ++ [transfer]) (transfer.record cm) := by
  obtain ⟨started, begins⟩ :=
    firstPacketTime_bounds transfers transfer cm soFar advances sinceBoot
  have finished := (sinceBoot transfer (by simp)).2
  have sum := totalSent_concat transfers transfer
  have sumReceived := totalReceived_concat transfers transfer
  have sent : (cm.bytesSent + transfer.bytesSent).toNat = totalSent (transfers ++ [transfer]) := by
    rw [UInt64.toNat_add, soFar.sent]
    omega
  have received : (cm.bytesReceived + transfer.bytesReceived).toNat =
      totalReceived (transfers ++ [transfer]) := by
    rw [UInt64.toNat_add, soFar.received]
    omega
  have total : (cm.bytesSent + transfer.bytesSent +
      (cm.bytesReceived + transfer.bytesReceived)).toNat =
        totalSent (transfers ++ [transfer]) + totalReceived (transfers ++ [transfer]) := by
    rw [UInt64.toNat_add, sent, received]
    exact Nat.mod_eq_of_lt small
  have first : (transfer.record cm).firstDataTime = firstPacketTime transfer cm := by rw [record_eq]
  have last : (transfer.record cm).lastDataTime = transfer.last := by rw [record_eq]
  refine ⟨?_, ?_, ?_, ?_, ?_⟩
  · rw [record_eq]
    exact sent
  · rw [record_eq]
    exact received
  · intro begun measured
    rw [first]
    exact firstPacketTime_eq transfers transfer cm soFar begun measured
  · intro latest isLast
    rw [List.getLast?_concat] at isLast
    rw [last, Option.some.inj isLast]
  · rw [first, last, record_throughput transfer cm _ started finished begins total]
    split
    · rfl
    · rename_i below
      exact throughput_zero transfers transfer cm soFar advances below

end Step

theorem foldl_record_exact (transfers : List Transfer) (cm : ConnectionMetrics)
    (untouched : Untouched cm) (advances : (clockReadings transfers).Pairwise (· ≤ ·))
    (sinceBoot : ∀ t ∈ transfers, t.first.SinceBoot ∧ t.last.SinceBoot)
    (small : totalSent transfers + totalReceived transfers < 2 ^ 64) :
    TransfersExact transfers (transfers.foldl (fun cm transfer => transfer.record cm) cm) := by
  induction transfers using List.reverseRecOn with
  | nil => exact transfersExact_nil cm untouched
  | append_singleton transfers transfer ih =>
      have earlier : (clockReadings transfers).Pairwise (· ≤ ·) := by
        rw [clockReadings, List.flatMap_append] at advances
        exact (List.pairwise_append.mp advances).1
      have bytes : totalSent transfers + totalReceived transfers < 2 ^ 64 := by
        rw [totalSent_concat, totalReceived_concat] at small
        omega
      have soFar := ih earlier (fun t member => sinceBoot t (List.mem_append_left _ member)) bytes
      rw [List.foldl_append, List.foldl_cons, List.foldl_nil]
      exact transfersExact_concat transfers transfer _ soFar advances sinceBoot small

/-! ## Among other calls -/

def MetricsCall.transferOn (index : Int) : MetricsCall → Option Transfer
  | .recordDataTransfer connIndex bytesSent bytesReceived first last =>
      if connIndex = index then some ⟨bytesSent, bytesReceived, first, last⟩ else none
  | .connectionStart _ => none
  | .latencyStart _ _ => none
  | .latencyEnd _ _ => none
  | .keyNegotiationStart _ _ => none
  | .keyNegotiationEnd _ _ => none
  | .connectionEnd _ _ => none
  | .setEnabled _ => none
  | .calculateStats => none

def transfersOn (index : Int) (calls : List MetricsCall) : List Transfer :=
  calls.filterMap (MetricsCall.transferOn index)

def TransferTracked (index : Int) (ctx : PerfMetricsCtx) (call : MetricsCall) : Prop :=
  (call.transferOn index).isSome = true → ctx.Tracks index

instance (index : Int) (ctx : PerfMetricsCtx) (call : MetricsCall) :
    Decidable (TransferTracked index ctx call) :=
  inferInstanceAs (Decidable (_ → _))

def performed (ctx : PerfMetricsCtx) (call : MetricsCall) : Option PerfMetricsCtx :=
  some (call.perform ctx)

def ConnectionMetrics.transferOnly (cm : ConnectionMetrics) : ConnectionMetrics :=
  { cm with
    connectionId := 0
    connectionLatency := Timepoint.zeroed
    keyNegotiation := Timepoint.zeroed }

theorem record_transferOnly (transfer : Transfer) (cm : ConnectionMetrics) :
    (transfer.record cm).transferOnly = transfer.record cm.transferOnly := by
  rw [record_eq, record_eq]
  rfl

theorem onRecord_transferOnly (change : ConnectionMetrics → ConnectionMetrics)
    (kept : ∀ cm, (change cm).transferOnly = cm.transferOnly) (connIndex index : Int)
    (ctx : PerfMetricsCtx) :
    ((onRecord change connIndex ctx).connMetrics index).transferOnly =
      (ctx.connMetrics index).transferOnly := by
  rw [onRecord_connMetrics]
  split
  · exact kept _
  · rfl

section Calls
variable (ctx : PerfMetricsCtx) (call : MetricsCall) (index : Int)

def Issued (ctx : PerfMetricsCtx) (index : Int) : Prop :=
  0 ≤ index ∧ index < ctx.currentConnections.toNat

theorem issued_of_tracks (tracked : ctx.Tracks index) : Issued ctx index := by
  unfold PerfMetricsCtx.Tracks intOfU32 at tracked
  unfold Issued
  split at tracked <;> omega

theorem onRecord_currentConnections (change : ConnectionMetrics → ConnectionMetrics)
    (connIndex : Int) (ctx : PerfMetricsCtx) :
    (onRecord change connIndex ctx).currentConnections = ctx.currentConnections :=
  onRecord_keeps PerfMetricsCtx.currentConnections (fun _ _ _ => rfl) change connIndex ctx

theorem current_le_perform :
    ctx.currentConnections.toNat ≤ (call.perform ctx).currentConnections.toNat := by
  cases call with
  | connectionStart connectionId =>
      rw [MetricsCall.perform]
      rcases perfMetricsConnectionStart_cases connectionId ctx with full | ⟨-, room, started⟩
      · rw [full]
      · have bound := ctx.maxConnections.toNat_lt
        have next := u32_succ ctx.currentConnections (by omega)
        rw [started]
        dsimp only
        omega
  | latencyStart connIndex now => exact (congrArg UInt32.toNat (onRecord_currentConnections _ _ ctx)).ge
  | latencyEnd connIndex now => exact (congrArg UInt32.toNat (onRecord_currentConnections _ _ ctx)).ge
  | keyNegotiationStart connIndex now =>
      exact (congrArg UInt32.toNat (onRecord_currentConnections _ _ ctx)).ge
  | keyNegotiationEnd connIndex now =>
      exact (congrArg UInt32.toNat (onRecord_currentConnections _ _ ctx)).ge
  | recordDataTransfer connIndex bytesSent bytesReceived first last =>
      exact (congrArg UInt32.toNat (onRecord_currentConnections _ _ ctx)).ge
  | connectionEnd connIndex success =>
      rw [MetricsCall.perform, perfMetricsConnectionEnd]
      split <;> exact Nat.le_refl _
  | setEnabled enabled => exact Nat.le_refl _
  | calculateStats => exact Nat.le_refl _

theorem perfMetricsConnectionStart_other (connectionId : UInt64) (issued : Issued ctx index) :
    (perfMetricsConnectionStart connectionId ctx).2.connMetrics index = ctx.connMetrics index := by
  rw [perfMetricsConnectionStart_connMetrics, if_neg]
  rintro ⟨-, begun⟩
  obtain ⟨nonneg, below⟩ := issued
  rcases perfMetricsConnectionStart_cases connectionId ctx with full | ⟨-, -, started⟩
  · rw [full] at begun
    omega
  · rw [started] at begun
    unfold intOfU32 at begun
    dsimp only at begun
    have bound := ctx.currentConnections.toNat_lt
    split at begun <;> omega

theorem perform_transferOnly (issued : Issued ctx index)
    (tracked : TransferTracked index ctx call) :
    ((call.perform ctx).connMetrics index).transferOnly =
      (call.transferOn index).elim (ctx.connMetrics index).transferOnly
        fun transfer => transfer.record (ctx.connMetrics index).transferOnly := by
  cases call with
  | connectionStart connectionId =>
      rw [MetricsCall.perform, perfMetricsConnectionStart_other ctx index connectionId issued]
      rfl
  | latencyStart connIndex now =>
      rw [MetricsCall.perform, perfMetricsConnectionLatencyStart, onRecord_transferOnly]
      · rfl
      · intro cm
        rfl
  | latencyEnd connIndex now =>
      rw [MetricsCall.perform, perfMetricsConnectionLatencyEnd, onRecord_transferOnly]
      · rfl
      · intro cm
        rfl
  | keyNegotiationStart connIndex now =>
      rw [MetricsCall.perform, perfMetricsKeyNegotiationStart, onRecord_transferOnly]
      · rfl
      · intro cm
        rfl
  | keyNegotiationEnd connIndex now =>
      rw [MetricsCall.perform, perfMetricsKeyNegotiationEnd, onRecord_transferOnly]
      · rfl
      · intro cm
        rfl
  | recordDataTransfer connIndex bytesSent bytesReceived first last =>
      rw [MetricsCall.perform, perfMetricsRecordDataTransfer, onRecord_connMetrics]
      by_cases same : connIndex = index
      · subst same
        have transfer : (MetricsCall.recordDataTransfer connIndex bytesSent bytesReceived first
            last).transferOn connIndex = some ⟨bytesSent, bytesReceived, first, last⟩ := if_pos rfl
        rw [TransferTracked, transfer] at tracked
        have recorded := record_transferOnly ⟨bytesSent, bytesReceived, first, last⟩
          (ctx.connMetrics connIndex)
        rw [if_pos ⟨rfl, tracked rfl⟩, transfer, Option.elim_some, ← recorded, Transfer.record]
      · rw [if_neg fun both => same both.1, MetricsCall.transferOn, if_neg same]
        rfl
  | connectionEnd connIndex success =>
      rw [MetricsCall.perform, perfMetricsConnectionEnd_connMetrics]
      rfl
  | setEnabled enabled => rfl
  | calculateStats => rfl

end Calls

/-- What other calls do in between does not show. -/
theorem calls_transferOnly (index : Int) (calls : List MetricsCall) (ctx : PerfMetricsCtx)
    (issued : Issued ctx index)
    (tracked : ∀ t ∈ transitions performed ctx calls, TransferTracked index t.before t.event) :
    ((calls.foldl MetricsCall.perform ctx).connMetrics index).transferOnly =
      (transfersOn index calls).foldl (fun cm transfer => transfer.record cm)
        (ctx.connMetrics index).transferOnly := by
  induction calls generalizing ctx with
  | nil => rfl
  | cons call rest ih =>
      simp only [transitions, performed, List.forall_mem_cons] at tracked
      have next : Issued (call.perform ctx) index :=
        ⟨issued.1, issued.2.trans_le (Int.ofNat_le.mpr (current_le_perform ctx call))⟩
      have step := perform_transferOnly ctx call index issued tracked.1
      rw [List.foldl_cons, ih (call.perform ctx) next tracked.2, step, transfersOn, transfersOn]
      cases recorded : call.transferOn index with
      | none => rw [List.filterMap_cons_none recorded, Option.elim_none]
      | some transfer =>
          rw [List.filterMap_cons_some recorded, Option.elim_some, List.foldl_cons]

/-- From the start of a connection on, whatever calls are made besides, its record
gives bytes, times and throughput of its transfers. -/
theorem transfers_exact (connectionId : UInt64) (ctx fresh : PerfMetricsCtx) (index : Int)
    (begun : perfMetricsConnectionStart connectionId ctx = (index, fresh))
    (tracks : fresh.Tracks index) (calls : List MetricsCall)
    (tracked : ∀ t ∈ transitions performed fresh calls, TransferTracked index t.before t.event)
    (advances : (clockReadings (transfersOn index calls)).Pairwise (· ≤ ·))
    (sinceBoot : ∀ t ∈ transfersOn index calls, t.first.SinceBoot ∧ t.last.SinceBoot)
    (small : totalSent (transfersOn index calls) + totalReceived (transfersOn index calls) <
      2 ^ 64) :
    TransfersExact (transfersOn index calls)
      ((calls.foldl MetricsCall.perform fresh).connMetrics index) := by
  have issued := issued_of_tracks fresh index tracks
  have notMinusOne : index ≠ -1 := by
    have nonneg := issued.1
    omega
  have record := perfMetricsConnectionStart_connMetrics connectionId index ctx
  rw [begun] at record
  rw [if_pos ⟨notMinusOne, rfl⟩] at record
  have untouched : Untouched (fresh.connMetrics index).transferOnly := by
    rw [show fresh.connMetrics index = _ from record]
    exact ⟨rfl, rfl, rfl, rfl, rfl⟩
  have recorded := foldl_record_exact (transfersOn index calls) _ untouched advances sinceBoot small
  rw [← calls_transferOnly index calls fresh issued tracked] at recorded
  exact ⟨recorded.sent, recorded.received, recorded.first, recorded.last, recorded.throughput⟩

/-- An empty transfer, a second connection, and a second later a thousand bytes. -/
def thousandBytes : List MetricsCall :=
  [.recordDataTransfer 0 0 0 ⟨1, 0⟩ ⟨1, 5⟩, .connectionStart 8,
    .recordDataTransfer 0 400 0 ⟨2, 0⟩ ⟨2, 5⟩, .recordDataTransfer 1 7 7 ⟨2, 6⟩ ⟨2, 7⟩,
    .recordDataTransfer 0 0 600 ⟨3, 0⟩ ⟨3, 0⟩]

theorem thousandBytes_exact :
    TransfersExact (transfersOn 0 thousandBytes)
      ((thousandBytes.foldl MetricsCall.perform
        (perfMetricsConnectionStart 7 (perfMetricsInit 2)).2).connMetrics 0) :=
  transfers_exact 7 (perfMetricsInit 2) (perfMetricsConnectionStart 7 (perfMetricsInit 2)).2 0 rfl
    (by decide) thousandBytes (by decide) (by decide) (by decide) (by decide)

end TlshubEbpf.Capture
