/-!
# Delays

How long to wait before each retry: always the same time, or the times of a list in order, of which
the last one is kept once they are used up.
-/

namespace MarkupQuery

/-- How long to wait before each retry, in milliseconds. -/
inductive Delay where
  | fixed (time : Nat)
  /-- The times in order; the last one repeats. Without any, there is no waiting. -/
  | sequence (times : List Nat)
  deriving DecidableEq, Repr

namespace Delay

/-- The time to wait before a retry. Retries are counted from zero. -/
def beforeRetry : Delay → UInt32 → Nat
  | fixed time, _ => time
  | sequence times, retry => (times[retry.toNat]?).getD (times.getLast?.getD 0)

@[simp]
theorem beforeRetry_fixed (time : Nat) (retry : UInt32) : (fixed time).beforeRetry retry = time :=
  rfl

/-- A time of the list is used at its index. -/
theorem beforeRetry_of_lt {times : List Nat} {retry : UInt32} (h : retry.toNat < times.length) :
    (sequence times).beforeRetry retry = times[retry.toNat] := by
  simp [beforeRetry, h]

/-- From the length of the list on, its last time is used, and no time if it is empty. -/
theorem beforeRetry_of_le {times : List Nat} {retry : UInt32} (h : times.length ≤ retry.toNat) :
    (sequence times).beforeRetry retry = times.getLast?.getD 0 := by
  simp [beforeRetry, h]

end Delay

end MarkupQuery
