import Mathlib.Algebra.Group.Int.Defs

/-! # `struct timespec` -/

set_option autoImplicit false

namespace TlshubEbpf.Lib

structure Timespec where
  tvSec : Int
  tvNsec : Int
  deriving DecidableEq, Repr

def Timespec.ns (time : Timespec) : Int := time.tvSec * 1000000000 + time.tvNsec

/-- A time that `CLOCK_MONOTONIC` shows: the kernel counts the nanoseconds since the
boot in 64 bits. -/
def Timespec.SinceBoot (time : Timespec) : Prop := 0 ≤ time.ns ∧ time.ns < 2 ^ 64

instance (time : Timespec) : Decidable time.SinceBoot := inferInstanceAs (Decidable (_ ∧ _))

end TlshubEbpf.Lib
