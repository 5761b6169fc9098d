import TlshubEbpf.Bench.EchoFidelity

/-! # When both ends wait in `send`

The client reads nothing before it has sent everything, and the server receives
nothing while it has bytes to echo.  Both wait for ever once the four buffers are
full and each has a byte left to send. -/

set_option autoImplicit false

namespace TlshubEbpf.Bench

open Lib

structure BufferSizes where
  clientSend : Nat
  serverRecv : Nat
  serverSend : Nat
  clientRecv : Nat
  positive : 0 < clientSend ∧ 0 < serverRecv ∧ 0 < serverSend ∧ 0 < clientRecv

def BufferSizes.capacities (sizes : BufferSizes) : Capacities :=
  ⟨some sizes.clientSend, some sizes.serverRecv, some sizes.serverSend, some sizes.clientRecv⟩

def BufferSizes.total (sizes : BufferSizes) : Nat :=
  sizes.clientSend + sizes.serverRecv + sizes.serverSend + sizes.clientRecv

/-- The client is in `send` and both buffers on its way to the server are full. -/
def ClientBlocked (sizes : BufferSizes) (s : Connection) : Prop :=
  s.client = .sending ∧ s.clientSendBuf.length = sizes.clientSend ∧
    s.serverRecvBuf.length = sizes.serverRecv

def ServerBlocked (sizes : BufferSizes) (s : Connection) : Prop :=
  s.server = .echoing ∧ s.serverSendBuf.length = sizes.serverSend ∧
    s.clientRecvBuf.length = sizes.clientRecv

def Deadlocked (sizes : BufferSizes) (s : Connection) : Prop :=
  ClientBlocked sizes s ∧ ServerBlocked sizes s

/-- A deadlock needs a byte more at each end than the buffers hold. -/
theorem deadlocked_size (sizes : BufferSizes) (size : DataSize) (s : Connection)
    (inOrder : InOrder size s) (counted : Counted size s) (deadlocked : Deadlocked sizes s) :
    sizes.total + 1 < size.bytes := by
  obtain ⟨⟨sending, clientSend, serverRecv⟩, echoing, serverSend, clientRecv⟩ := deadlocked
  obtain ⟨unfinished, nothing⟩ := counted.sending sending
  have left := inOrder.echoing echoing
  have sent := congrArg List.length inOrder.sent
  have received := congrArg List.length inOrder.received
  have echoed := congrArg List.length inOrder.echoed
  simp only [List.length_append, List.length_take, length_fillBuffer, nothing, List.length_nil,
    Connection.unechoed, List.length_drop] at sent received echoed
  unfold BufferSizes.total
  omega

/-! ## A run into the deadlock, a byte at a time -/

/-- What matters of a state on the way: how much each buffer and each end holds. -/
structure Holds (s : Connection) (totalSent clientSend serverRecv held serverSend
    clientRecv : Nat) : Prop where
  sending : s.client = .sending
  totalSent : s.totalSent = totalSent
  clientSend : s.clientSendBuf.length = clientSend
  serverRecv : s.serverRecvBuf.length = serverRecv
  server : s.server = if held = 0 then .receiving else .echoing
  held : s.unechoed.length = held
  serverSend : s.serverSendBuf.length = serverSend
  clientRecv : s.clientRecvBuf.length = clientRecv

section Run
variable (sizes : BufferSizes) (size : DataSize) (answers : ConnectAnswers)

def Reachable (s : Connection) : Prop :=
  Reaches (Connection.step sizes.capacities size) (Connection.start answers) s

def Attains (totalSent clientSend serverRecv held serverSend clientRecv : Nat) : Prop :=
  ∃ s, Reachable sizes size answers s ∧
    Holds s totalSent clientSend serverRecv held serverSend clientRecv

theorem fits_some (limit count : Nat) (room : count ≤ limit) : Fits (some limit) count := by
  intro limit' same
  rw [← Option.mem_some.mp same]
  exact room

theorem sends_byte (t a b h c d : Nat) (more : t + 1 < size.bytes) (room : a < sizes.clientSend)
    (attained : Attains sizes size answers t a b h c d) :
    Attains sizes size answers (t + 1) (a + 1) b h c d := by
  obtain ⟨s, reached, holds⟩ := attained
  have offered := length_unsent size s
  rw [holds.totalSent] at offered
  have allowed : s.client = .sending ∧ SendAnswers sizes.capacities.clientSend s.clientSendBuf
      (s.unsent size) (.bytes 1) := by
    refine ⟨holds.sending, Nat.one_pos, by omega, fits_some _ _ ?_⟩
    rw [holds.clientSend]
    exact room
  have less : s.totalSent + 1 < size.bytes := by
    rw [holds.totalSent]
    exact more
  have taken : s.step sizes.capacities size (.clientSend (.bytes 1) ⟨0, 0⟩) =
      some { s with
        totalSent := s.totalSent + 1
        clientSendBuf := s.clientSendBuf ++ (s.unsent size).take 1 } := by
    refine (if_pos allowed).trans ?_
    unfold Connection.afterClientSend
    simp only [sendTurn, IoResult.count, if_pos less]
  refine ⟨_, reaches_step _ _ _ _ _ reached taken, ?_⟩
  refine ⟨holds.sending, congrArg (· + 1) holds.totalSent, ?_, holds.serverRecv, holds.server,
    holds.held, holds.serverSend, holds.clientRecv⟩
  have one := holds.clientSend
  simp only [List.length_append, List.length_take]
  omega

theorem carries_byte (t a b h c d : Nat) (room : b < sizes.serverRecv)
    (attained : Attains sizes size answers t (a + 1) b h c d) :
    Attains sizes size answers t a (b + 1) h c d := by
  obtain ⟨s, reached, holds⟩ := attained
  have allowed : 1 ≤ s.clientSendBuf.length ∧
      Fits sizes.capacities.serverRecv (s.serverRecvBuf.length + 1) := by
    refine ⟨?_, fits_some _ _ ?_⟩
    · rw [holds.clientSend]
      omega
    · rw [holds.serverRecv]
      exact room
  refine ⟨_, reaches_step _ _ _ _ (.carryToServer 1) reached (if_pos allowed), ?_⟩
  refine ⟨holds.sending, holds.totalSent, ?_, ?_, holds.server, holds.held, holds.serverSend,
    holds.clientRecv⟩
  · dsimp only
    rw [List.length_drop, holds.clientSend]
    omega
  · dsimp only
    rw [List.length_append, List.length_take, holds.serverRecv, holds.clientSend]
    omega

theorem receives_byte (t a b c d : Nat)
    (attained : Attains sizes size answers t a (b + 1) 0 c d) :
    Attains sizes size answers t a b 1 c d := by
  obtain ⟨s, reached, holds⟩ := attained
  have receiving : s.server = .receiving := holds.server
  have allowed : s.server = .receiving ∧
      RecvAnswers s.serverRecvBuf s.EndToServer (.bytes 1) := by
    refine ⟨receiving, ?_, ?_⟩
    · rw [holds.serverRecv]
      omega
    · decide
  refine ⟨_, reaches_step _ _ _ _ (.serverRecv (.bytes 1)) reached
    (if_pos allowed), ?_⟩
  refine ⟨holds.sending, holds.totalSent, holds.clientSend, ?_, rfl, ?_, holds.serverSend,
    holds.clientRecv⟩
  · exact (List.length_drop ..).trans (by rw [holds.serverRecv]; omega)
  · refine (List.length_drop ..).trans ?_
    have one : (s.serverRecvBuf.take 1).length = 1 := by
      rw [List.length_take, holds.serverRecv]
      omega
    exact one

theorem echoes_byte (t a b c d : Nat) (room : c < sizes.serverSend)
    (attained : Attains sizes size answers t a b 1 c d) :
    Attains sizes size answers t a b 0 (c + 1) d := by
  obtain ⟨s, reached, holds⟩ := attained
  have echoing : s.server = .echoing := holds.server
  have held := holds.held
  have allowed : s.server = .echoing ∧ SendAnswers sizes.capacities.serverSend s.serverSendBuf
      s.unechoed (.bytes 1) := by
    refine ⟨echoing, Nat.one_pos, by omega, fits_some _ _ ?_⟩
    rw [holds.serverSend]
    exact room
  refine ⟨_, reaches_step _ _ _ _ (.serverSend (.bytes 1)) reached
    (if_pos allowed), ?_⟩
  unfold Connection.unechoed at held
  rw [List.length_drop] at held
  have done : ¬ s.echoSent + 1 < s.chunk.length := by omega
  refine ⟨holds.sending, holds.totalSent, holds.clientSend, holds.serverRecv, if_neg done, ?_, ?_,
    holds.clientRecv⟩
  · refine (List.length_drop ..).trans ?_
    change s.chunk.length - (s.echoSent + 1) = 0
    omega
  · refine (List.length_append ..).trans ?_
    rw [List.length_take, holds.serverSend, holds.held]
    rfl

theorem returns_byte (t a b h c d : Nat) (room : d < sizes.clientRecv)
    (attained : Attains sizes size answers t a b h (c + 1) d) :
    Attains sizes size answers t a b h c (d + 1) := by
  obtain ⟨s, reached, holds⟩ := attained
  have allowed : 1 ≤ s.serverSendBuf.length ∧
      Fits sizes.capacities.clientRecv (s.clientRecvBuf.length + 1) := by
    refine ⟨?_, fits_some _ _ ?_⟩
    · rw [holds.serverSend]
      omega
    · rw [holds.clientRecv]
      exact room
  refine ⟨_, reaches_step _ _ _ _ (.carryToClient 1) reached (if_pos allowed), ?_⟩
  refine ⟨holds.sending, holds.totalSent, holds.clientSend, holds.serverRecv, holds.server,
    holds.held, ?_, ?_⟩
  · dsimp only
    rw [List.length_drop, holds.serverSend]
    omega
  · dsimp only
    rw [List.length_append, List.length_take, holds.serverSend, holds.clientRecv]
    omega

theorem start_attains : Attains sizes size answers 0 0 0 0 0 0 :=
  ⟨Connection.start answers, reaches_start _ _, rfl, rfl, rfl, rfl, rfl, rfl, rfl, rfl⟩

theorem delivers_byte (t b h c d : Nat) (more : t + 1 < size.bytes) (room : b < sizes.serverRecv)
    (attained : Attains sizes size answers t 0 b h c d) :
    Attains sizes size answers (t + 1) 0 (b + 1) h c d :=
  carries_byte sizes size answers (t + 1) 0 b h c d room
    (sends_byte sizes size answers t 0 b h c d more sizes.positive.1 attained)

/-- A byte goes all the way to the server, which holds it. -/
theorem hands_byte (t c d : Nat) (more : t + 1 < size.bytes)
    (attained : Attains sizes size answers t 0 0 0 c d) :
    Attains sizes size answers (t + 1) 0 0 1 c d :=
  receives_byte sizes size answers (t + 1) 0 0 c d
    (delivers_byte sizes size answers t 0 0 c d more sizes.positive.2.1 attained)

theorem fills_clientRecv (d : Nat) (more : d < size.bytes) (room : d ≤ sizes.clientRecv) :
    Attains sizes size answers d 0 0 0 0 d := by
  induction d with
  | zero => exact start_attains sizes size answers
  | succ d ih =>
      have before := ih (by omega) (by omega)
      have handed := hands_byte sizes size answers d 0 d more before
      have echoed := echoes_byte sizes size answers (d + 1) 0 0 0 d sizes.positive.2.2.1 handed
      exact returns_byte sizes size answers (d + 1) 0 0 0 0 d room echoed

theorem fills_serverSend (c : Nat) (more : sizes.clientRecv + c < size.bytes)
    (room : c ≤ sizes.serverSend) :
    Attains sizes size answers (sizes.clientRecv + c) 0 0 0 c sizes.clientRecv := by
  induction c with
  | zero => exact fills_clientRecv sizes size answers _ more (Nat.le_refl _)
  | succ c ih =>
      have before := ih (by omega) (by omega)
      have handed := hands_byte sizes size answers _ c _ more before
      exact echoes_byte sizes size answers _ 0 0 c _ room handed

theorem fills_serverRecv (b : Nat)
    (more : sizes.clientRecv + sizes.serverSend + 1 + b < size.bytes)
    (room : b ≤ sizes.serverRecv) :
    Attains sizes size answers (sizes.clientRecv + sizes.serverSend + 1 + b) 0 b 1
      sizes.serverSend sizes.clientRecv := by
  induction b with
  | zero =>
      have before := fills_serverSend sizes size answers sizes.serverSend (by omega)
        (Nat.le_refl _)
      exact hands_byte sizes size answers _ _ _ more before
  | succ b ih =>
      have before := ih (by omega) (by omega)
      exact delivers_byte sizes size answers _ b 1 _ _ more room before

theorem fills_clientSend (a : Nat)
    (more : sizes.clientRecv + sizes.serverSend + 1 + sizes.serverRecv + a < size.bytes)
    (room : a ≤ sizes.clientSend) :
    Attains sizes size answers (sizes.clientRecv + sizes.serverSend + 1 + sizes.serverRecv + a)
      a sizes.serverRecv 1 sizes.serverSend sizes.clientRecv := by
  induction a with
  | zero => exact fills_serverRecv sizes size answers sizes.serverRecv more (Nat.le_refl _)
  | succ a ih =>
      have before := ih (by omega) (by omega)
      exact sends_byte sizes size answers _ a _ 1 _ _ more room before

theorem reaches_deadlock (large : sizes.total + 1 < size.bytes) :
    ∃ s, Reachable sizes size answers s ∧ Deadlocked sizes s := by
  unfold BufferSizes.total at large
  obtain ⟨s, reached, holds⟩ := fills_clientSend sizes size answers sizes.clientSend (by omega)
    (Nat.le_refl _)
  exact ⟨s, reached, ⟨holds.sending, holds.clientSend, holds.serverRecv⟩, holds.server,
    holds.serverSend, holds.clientRecv⟩

/-- No interleaving ends in the deadlock if and only if the buffers and one byte
held by the server take in all that the client sends but its last byte. -/
theorem deadlock_free_iff :
    (∀ s, Reachable sizes size answers s → ¬ Deadlocked sizes s) ↔
      size.bytes ≤ sizes.total + 1 := by
  constructor
  · intro free
    by_contra large
    obtain ⟨s, reached, deadlocked⟩ := reaches_deadlock sizes size answers (Nat.lt_of_not_le large)
    exact free s reached deadlocked
  -- no byte is lost, so that a deadlock needs one more than all places hold
  · intro small s reached deadlocked
    obtain ⟨inOrder, counted⟩ := reaches_inv (Connection.step sizes.capacities size)
      (fun s => InOrder size s ∧ Counted size s)
      (fun s event next holds taken =>
        ⟨step_inOrder sizes.capacities size s next event holds.1 taken,
          step_counted sizes.capacities size s next event holds.1 holds.2 taken⟩)
      (Connection.start answers) s ⟨start_inOrder size answers, start_counted size answers⟩
      reached
    have large := deadlocked_size sizes size s inOrder counted deadlocked
    omega

end Run

def quarterMebibytes : BufferSizes := ⟨262144, 262144, 262144, 262144, by decide⟩

def largestSize : DataSize := ⟨10485760, Nat.le_of_ble_eq_true rfl, Nat.le_refl _⟩

theorem largestSize_deadlocks :
    ¬ ∀ s, Reachable quarterMebibytes largestSize connectAnswers s →
      ¬ Deadlocked quarterMebibytes s := by
  intro free
  obtain ⟨s, reached, deadlocked⟩ := reaches_deadlock quarterMebibytes largestSize
    connectAnswers (by decide)
  exact free s reached deadlocked

end TlshubEbpf.Bench
