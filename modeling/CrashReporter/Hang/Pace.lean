/-
**The pace of looks.**

Monitors look at regular intervals. `Pace.pass` lets time pass, look by look, until something holds.
-/

namespace CrashReporter.Hang

/-- The present, the time of the next look, and the time between looks, in nanoseconds. -/
structure Pace where
  time : Int
  due : Int
  interval : Nat
  interval_pos : 0 < interval

namespace Pace

/-- A pace at the origin of time. An interval of zero counts as one. -/
def start (interval : Nat) : Pace where
  time := 0
  due := max interval 1
  interval := max interval 1
  interval_pos := by omega

/-- The next look is a whole interval away. -/
def restart (pace : Pace) (interval : Nat) : Pace :=
  { start interval with time := pace.time, due := pace.time + (max interval 1 : Nat) }

/-- Looks at most `count` times and not after `limit`, until something holds, and tells whether it does. -/
def passWithin {σ : Type} (look : Int → σ → σ) (done : σ → Bool) (limit : Int) :
    Nat → Pace → σ → Bool × Pace × σ
  | 0, pace, state => (done state, pace, state)
  | count + 1, pace, state =>
    if done state then (true, pace, state)
    else if pace.due ≤ limit then
      let time := max pace.time pace.due
      passWithin look done limit count
        { pace with time := time, due := time + pace.interval } (look time state)
    else (false, { pace with time := limit }, state)

/-- Lets a span of time pass, with a look at every interval, until something holds, and tells whether it
does. -/
def pass {σ : Type} (pace : Pace) (span : Nat) (look : Int → σ → σ) (done : σ → Bool) (state : σ) :
    Bool × Pace × σ :=
  passWithin look done (pace.time + span) (span / pace.interval + 2) pace state

end Pace

end CrashReporter.Hang
