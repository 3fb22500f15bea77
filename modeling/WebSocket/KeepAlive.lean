/-! # Keep-alive pings

A ping falls due every interval. One that is taken in time leaves the schedule as it is; one that is
taken more than `tolerance` milliseconds late shifts the schedule, so that missed pings are not
caught up with.
-/

namespace WebSocket

/-- A schedule of pings. -/
structure KeepAlive where
  interval : Nat
  /-- When the next ping is due. -/
  due : Nat
  interval_pos : 0 < interval
deriving DecidableEq, Repr

namespace KeepAlive

/-- By how much a ping may be late and leave the schedule as it is. -/
def tolerance : Nat := 5

/-- The schedule whose first ping is due one interval from now. Instants do not overflow: an
interval is a number of milliseconds that leaves room for them. -/
def start? (interval now : Nat) : Option KeepAlive :=
  if positive : 0 < interval then some ⟨interval, now + interval, positive⟩ else none

def isDue (schedule : KeepAlive) (now : Nat) : Bool :=
  schedule.due ≤ now

/-- The schedule after the due ping is taken. -/
def take (schedule : KeepAlive) (now : Nat) : KeepAlive :=
  let base := if schedule.due + tolerance < now then now else schedule.due
  { schedule with due := base + schedule.interval }

theorem due_lt_due_take (schedule : KeepAlive) (now : Nat) :
    schedule.due < (schedule.take now).due := by
  have := schedule.interval_pos
  simp only [take]
  split <;> omega

end KeepAlive

end WebSocket
