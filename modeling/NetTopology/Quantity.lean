/-
# Durations and counters as text

Labels show durations in the largest unit that fits and counters with an SI
suffix. The unit of a duration is chosen before rounding, so a number of
seconds just under a minute may well read `60 seconds`.
-/

import NetTopology.Decimal.Places

namespace NetTopology.Quantity

open Decimal

/-- Seconds per year of 365.25 days. -/
def secondsPerYear : Float := 365.25 * 86400.0

/-- Seconds per twelfth of a year. -/
def secondsPerMonth : Float := secondsPerYear / 12.0

def secondsPerDay : Float := 86400.0

def secondsPerHour : Float := 3600.0

/-- The number and the unit of a duration, before the plural. -/
def durationParts (seconds : Float) : String × String :=
  if secondsPerYear ≤ seconds then (fixed 2 (seconds / secondsPerYear), "year")
  else if secondsPerMonth ≤ seconds then (fixed 2 (seconds / secondsPerMonth), "month")
  else if secondsPerDay ≤ seconds then (fixed 1 (seconds / secondsPerDay), "day")
  else if secondsPerHour ≤ seconds then (fixed 1 (seconds / secondsPerHour), "hour")
  else if 60.0 ≤ seconds then (fixed 0 (seconds / 60.0), "minute")
  else if 1.0 ≤ seconds then (fixed 0 seconds, "second")
  else (fixed 3 (seconds * 1000.0), "msec")

/-- A duration for a reader. The unit is singular only when the printed number
is exactly `1`. -/
def duration (seconds : Float) : String :=
  let (number, unit) := durationParts seconds
  if number = "1" then number ++ " " ++ unit else number ++ " " ++ unit ++ "s"

/-- A counter with an SI suffix. The text ends with the suffix or with a blank,
so that a unit can be appended directly. -/
def counter (value : Float) : String :=
  if 1e9 < value then fixed 1 (value / 1e9) ++ " G"
  else if 1e6 < value then fixed 1 (value / 1e6) ++ " M"
  else if 1e4 < value then fixed 1 (value / 1e3) ++ " K"
  else fixed 0 value ++ " "

end NetTopology.Quantity
