/-
# Options of polling

How often a cycle starts, how long it waits for answers and how many devices it
asks at the same time. The wait grows with the number of devices that are still
to answer, but has a lower bound; so has the pause between two cycles.
-/

import NetTopology.Catalog
import NetTopology.Polling.Span

namespace NetTopology.Polling

/-- The options of a poll loop. -/
structure Options where
  /-- The time from the start of a cycle to the start of the next one. -/
  interval : Span := .ofSeconds Catalog.defaultPollRate.toNat
  /-- The shortest pause after a cycle. -/
  minSleep : Span := .ofSeconds 5
  /-- The shortest time to wait for answers. -/
  baseTimeout : Span := .ofSeconds 5
  /-- The time to wait for each device that is still to answer. -/
  deviceTimeout : Span := .ofSeconds 2
  /-- How many devices are asked at the same time; at least one is. -/
  threads : Nat := 1
  /-- The uptime in seconds below which a device has rebooted lately. -/
  rebootThreshold : Float := 60.0
  deriving Inhabited

namespace Options

/-- Options with the poll rate of a catalog. -/
def ofCatalog (catalog : Catalog) : Options where
  interval := .ofSeconds catalog.pollRate.toNat

/-- The number of devices that counts for the wait: it is kept in 32 bits. -/
def counted (outstanding : Nat) : Nat :=
  outstanding % (1 <<< 32)

/-- How long to wait for the answers of `outstanding` devices. There is no
result when the wait for all of them leaves the range of spans. -/
def gatherTimeout? (options : Options) (outstanding : Nat) : Option Span :=
  (options.deviceTimeout.times? (counted outstanding)).map fun scaled =>
    scaled.longer options.baseTimeout

/-- How long to pause after a cycle that took `elapsed`. -/
def sleepAfter (options : Options) (elapsed : Span) : Span :=
  (options.interval.since elapsed).longer options.minSleep

/-- The message of an abort because a wait leaves the range of spans. -/
def overflowMessage : String := "overflow when multiplying duration by scalar"

/-- The message of an abort because no clock can show the end of a pause. -/
def deadlineMessage : String := "overflow when adding duration to instant"

end Options

end NetTopology.Polling
