import CommandFlow.Run.Walk

/-!
# Virtual time

The clock of a run counts ticks of `2⁻¹⁰⁷⁴` seconds, so every floating-point number of seconds is a whole
number of ticks. It moves only when the run waits.

* `Clock` : the ticks that have passed, and when the time of the run is up;
* `Clock.wait` : lets time pass; `Clock.isUp` : the time of the run is up;
* `Clock.milliseconds` : the time that has passed.
-/

namespace CommandFlow

/-- The ticks of a number of seconds; none for a number that is negative or not finite. -/
def ticksOf : Binary64 → Nat
  | .finite false steps => steps
  | _ => 0

/-- The ticks that have passed, and when the time of the run is up. -/
structure Clock where
  now : Nat := 0
  deadline : Option Nat := none

namespace Clock

/-- Lets time pass. A wait that reaches the deadline ends there, without an answer; a wait of no length
always ends. -/
def wait (clock : Clock) (ticks : Nat) : Reply Unit × Clock :=
  match clock.deadline with
  | some deadline =>
    if 0 < ticks && deadline ≤ clock.now + ticks then
      (.expired, { clock with now := max clock.now deadline })
    else (.done (), { clock with now := clock.now + ticks })
  | none => (.done (), { clock with now := clock.now + ticks })

/-- The time of the run is up. -/
def isUp (clock : Clock) : Bool :=
  match clock.deadline with
  | some deadline => deadline ≤ clock.now
  | none => false

/-- Sets a deadline so many seconds from now; an infinite number of seconds sets none. -/
def allow (clock : Clock) (seconds : Binary64) : Clock :=
  { clock with deadline := if seconds.isFinite then some (clock.now + ticksOf seconds) else none }

/-- Lifts the deadline. -/
def free (clock : Clock) : Clock := { clock with deadline := none }

/-- The whole milliseconds that have passed, a half going to the even neighbour. -/
def milliseconds (clock : Clock) : Nat := Binary64.nearestEven (clock.now * 1000) Binary64.one

end Clock

end CommandFlow
