/-
# Spans of time

A span is a whole number of nanoseconds. Its seconds are kept in a word of 64
bits, so multiplying a span may leave the range; `times?` then has no result.

A point of time is the span that a clock shows. A clock keeps its seconds in a
signed word, so half of the range is left for it, and there is no point of time
a very long span after another; `after?` then has no result.
-/

namespace NetTopology.Polling

/-- A span of time. -/
structure Span where
  nanoseconds : Nat
  deriving DecidableEq, Inhabited

namespace Span

def perSecond : Nat := 1000000000

/-- The first number of nanoseconds that is no span any more. -/
def limit : Nat := (1 <<< 64) * perSecond

/-- The first number of nanoseconds that no clock can show. -/
def clockLimit : Nat := (1 <<< 63) * perSecond

/-- A span of whole seconds and nanoseconds. -/
def ofParts (seconds nanoseconds : Nat) : Span :=
  ⟨seconds * perSecond + nanoseconds⟩

/-- A span of whole seconds. -/
def ofSeconds (seconds : Nat) : Span :=
  ofParts seconds 0

def zero : Span := ⟨0⟩

/-- The whole seconds of a span. -/
def seconds (span : Span) : Nat :=
  span.nanoseconds / perSecond

/-- The nanoseconds after the whole seconds. -/
def subseconds (span : Span) : Nat :=
  span.nanoseconds % perSecond

instance : LE Span where
  le a b := a.nanoseconds ≤ b.nanoseconds

instance (a b : Span) : Decidable (a ≤ b) :=
  inferInstanceAs (Decidable (a.nanoseconds ≤ b.nanoseconds))

def longer (a b : Span) : Span :=
  ⟨max a.nanoseconds b.nanoseconds⟩

/-- The time from `b` to `a`; none if `b` is later. -/
def since (a b : Span) : Span :=
  ⟨a.nanoseconds - b.nanoseconds⟩

/-- The time `b` after `a`. -/
def after (a b : Span) : Span :=
  ⟨a.nanoseconds + b.nanoseconds⟩

/-- The point of time `b` after `a`, unless no clock can show it. -/
def after? (a b : Span) : Option Span :=
  if a.nanoseconds + b.nanoseconds < clockLimit then some (a.after b) else none

/-- A multiple of a span, unless it leaves the range. -/
def times? (span : Span) (count : Nat) : Option Span :=
  if span.nanoseconds * count < limit then some ⟨span.nanoseconds * count⟩ else none

end Span

end NetTopology.Polling
