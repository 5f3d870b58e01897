/-
# The poll loop

The loop runs a cycle, hands its snapshot to the consumer and pauses, over and
over. It ends when the consumer fails, when it is told to stop or when its time
is over, which it checks in this order after each cycle; while it pauses it
looks at the stop flag again and again. A pause needs a point of time at which
it ends: when no clock can show that, the loop is aborted before it pauses.

What the loop learns from outside is a list of turns: the snapshot of the
cycle, what the consumer said to it, what the clock showed and whether the stop
flag was set at each look at it. A run is a function of the turns, so what holds
for all lists of turns holds for all devices, consumers, clocks and histories of
the flag.
-/

import NetTopology.Failure
import NetTopology.Polling.Options
import NetTopology.Snapshot

namespace NetTopology.Polling

/-- One look at the stop flag and then at the clock, while the loop pauses. -/
structure Glance where
  /-- Whether the stop flag was set. -/
  stop : Bool
  /-- What the clock showed. -/
  now : Span
  deriving DecidableEq, Inhabited

/-- What one cycle of the loop learns from outside. -/
structure Turn where
  snapshot : Snapshot
  /-- The clock at the start of the cycle. -/
  started : Span
  /-- What the consumer said to the snapshot. -/
  answer : Except Failure Unit
  /-- The clock when the consumer had answered. -/
  ended : Span
  /-- Whether the stop flag was set then. -/
  stop : Bool
  /-- The clock when the time of the loop was checked. -/
  checked : Span
  /-- The clock at the start of the pause. -/
  paused : Span
  /-- The looks at flag and clock during the pause. -/
  glances : List Glance

/-- How a pause ends. -/
inductive Awakening where
  /-- The pause is over. -/
  | rested
  /-- The stop flag was set. -/
  | stopped
  /-- No clock can show the end of the pause, so there is no pause at all. -/
  | outOfRange
  /-- The looks are used up before the pause ends. -/
  | unfinished
  deriving DecidableEq

/-- Pause until the deadline, unless the stop flag is set before. -/
def pause (deadline : Span) : List Glance → Awakening
  | [] => .unfinished
  | glance :: later =>
    if glance.stop then .stopped
    else if deadline ≤ glance.now then .rested
    else pause deadline later

/-- Why a run of the loop is finished. -/
inductive Cause where
  /-- The stop flag was set. -/
  | stopped
  /-- The time of the loop was over. -/
  | timeOver
  deriving DecidableEq

/-- How a run of the loop ends. -/
inductive Ending where
  /-- The consumer failed. -/
  | failed (failure : Failure)
  /-- The loop was stopped or its time was over, after so many cycles. -/
  | finished (cycles : Nat) (cause : Cause)
  /-- The loop was aborted, since no clock can show the end of its pause. -/
  | aborted
  /-- The turns are used up before the loop ends. -/
  | unfinished
  deriving DecidableEq

/-- A run of the loop: the snapshots handed to the consumer, and the ending. -/
structure Run where
  /-- The snapshots handed to the consumer, in order. -/
  handed : List Snapshot
  ending : Ending

/-- A run with one more snapshot in front. -/
def Run.after (run : Run) (snapshot : Snapshot) : Run :=
  { run with handed := snapshot :: run.handed }

def isOver (start : Span) (duration : Option Span) (now : Span) : Bool :=
  duration.any fun duration => duration ≤ now.since start

namespace Options

variable (options : Options) (start : Span) (duration : Option Span)

/-- How the pause after a turn ends. -/
def pauseAfter (turn : Turn) : Awakening :=
  match turn.paused.after? (options.sleepAfter (turn.ended.since turn.started)) with
  | some deadline => pause deadline turn.glances
  | none => .outOfRange

/-- Run the loop after so many cycles. -/
def runFrom (cycles : Nat) : List Turn → Run
  | [] => ⟨[], .unfinished⟩
  | turn :: later =>
    match turn.answer with
    | .error failure => ⟨[turn.snapshot], .failed failure⟩
    | .ok () =>
      if turn.stop then ⟨[turn.snapshot], .finished (cycles + 1) .stopped⟩
      else if isOver start duration turn.checked then
        ⟨[turn.snapshot], .finished (cycles + 1) .timeOver⟩
      else
        match options.pauseAfter turn with
        | .rested => (runFrom (cycles + 1) later).after turn.snapshot
        | .stopped => ⟨[turn.snapshot], .finished (cycles + 1) .stopped⟩
        | .outOfRange => ⟨[turn.snapshot], .aborted⟩
        | .unfinished => ⟨[turn.snapshot], .unfinished⟩

def run (turns : List Turn) : Run :=
  options.runFrom start duration 0 turns

end Options

end NetTopology.Polling
