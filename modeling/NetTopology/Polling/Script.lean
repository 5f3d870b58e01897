/-
# Scripted loops

A script says in advance in which cycles the stop flag is set and in which one
the consumer fails. Together with the snapshots of the cycles it gives the turns
of the loop. The clock of a script only moves while the loop pauses.
-/

import NetTopology.Polling.Loop

namespace NetTopology.Polling

/-- When the loop is stopped and when its consumer fails. Cycles count from one,
so what is to happen in cycle zero never happens. -/
structure Script where
  /-- Whether the stop flag is set before the loop starts. -/
  stopped : Bool := false
  /-- The cycle in which the consumer sets the stop flag. -/
  stopIn : Option Nat := none
  /-- The cycle after which the stop flag is set during the pause. -/
  stopAfter : Option Nat := none
  /-- The cycle in which the consumer fails, and how. -/
  failIn : Option (Nat × Failure) := none

namespace Script

variable (script : Script)

/-- Whether a cycle that is to bring something is one of the cycles up to another. -/
def isDue (due cycle : Nat) : Bool :=
  1 ≤ due && due ≤ cycle

/-- Whether the stop flag is set when the consumer has answered in a cycle. -/
def isStoppedIn (cycle : Nat) : Bool :=
  script.stopped || script.stopIn.any (isDue · cycle) || script.stopAfter.any (isDue · (cycle - 1))

/-- Whether the stop flag is set when the pause after a cycle has begun. -/
def isStoppedAfter (cycle : Nat) : Bool :=
  script.isStoppedIn cycle || script.stopAfter.any (isDue · cycle)

/-- What the consumer says in a cycle. -/
def answerIn (cycle : Nat) : Except Failure Unit :=
  match script.failIn with
  | some (failing, failure) => if failing = cycle then .error failure else .ok ()
  | none => .ok ()

/-- The turn of a cycle that starts at `now`, with a pause up to `later`. -/
def turn (cycle : Nat) (now later : Span) (snapshot : Snapshot) : Turn where
  snapshot := snapshot
  started := now
  answer := script.answerIn cycle
  ended := now
  stop := script.isStoppedIn cycle
  checked := now
  paused := now
  glances := [⟨script.isStoppedAfter cycle, later⟩]

def turns (options : Options) (cycle : Nat) (now : Span) : List Snapshot → List Turn
  | [] => []
  | snapshot :: snapshots =>
    let later := now.after (options.sleepAfter .zero)
    script.turn cycle now later snapshot :: turns options (cycle + 1) later snapshots

/-- The last cycle of which the script says something. -/
def lastCycle : Nat :=
  max (max 1 (script.stopIn.getD 0)) (max (script.stopAfter.getD 0)
    (script.failIn.elim 0 Prod.fst))

/-- Run the loop by the script over the snapshots of its cycles. -/
def run (options : Options) (duration : Option Span) (snapshots : List Snapshot) : Run :=
  options.run .zero duration (script.turns options 1 .zero snapshots)

/-- Whether the stop flag is set after a run. A loop that does not pause after
its last cycle cannot be stopped during that pause. -/
def isStopped (run : Run) : Bool :=
  match run.ending with
  | .finished _ .stopped => true
  | _ => script.isStoppedIn run.handed.length

end Script

end NetTopology.Polling
