/-
**Instants and spans of time.**

* `Instant` — a point in time and the offset at which it is shown. Its nanoseconds reach two
  thousand millions in a leap second, which is the last second of its minute counted on.
* `Instant.compare` — by the point in time; the offset does not count.
* `Instant.plus`, `Instant.minus` — moving by a span, and the span between two; nothing beyond the
  years that can be shown.
-/

import AccessControl.Time.Calendar
import AccessControl.Word

namespace AccessControl.Time

abbrev Span : Type := Int

def nanosPerSecond : Nat := 1000000000

/-- The longest span: as many milliseconds as a signed number of 64 bits holds. -/
def longestSpan : Int := Word.greatestInt64 * 1000000

/-- A span within the limits, or none. -/
def Span.checked (span : Int) : Option Span :=
  if -longestSpan ≤ span ∧ span ≤ longestSpan then some span else none

/-- A point in time: seconds since 1970 in universal time, nanoseconds, and the offset in seconds at
which it is shown. -/
structure Instant where
  seconds : Int
  nanos : Nat
  offset : Int
  deriving Repr, DecidableEq

def firstSecond : Int := (Date.mk (-262143) 1 1).dayNumber * 86400

def lastSecond : Int := (Date.mk 262142 12 31).dayNumber * 86400 + 86399

namespace Instant

/-- Whether a point in time can be shown. -/
def inRange (instant : Instant) : Bool :=
  firstSecond ≤ instant.seconds && instant.seconds ≤ lastSecond

def compare (first second : Instant) : Ordering :=
  (Ord.compare first.seconds second.seconds).then (Ord.compare first.nanos second.nanos)

/-- The nanoseconds since 1970 began, those of a leap second counted on. -/
def nanosSinceEpoch (instant : Instant) : Int :=
  instant.seconds * nanosPerSecond + instant.nanos

/-- Whether a point in time lies after the beginning of 1970, by nanoseconds that fit 64 bits with a
sign. -/
def afterEpoch (instant : Instant) : Bool :=
  0 < instant.nanosSinceEpoch && instant.nanosSinceEpoch ≤ Word.greatestInt64

def secondOfDay (instant : Instant) : Int := Int.fmod instant.seconds 86400

def leaveLeap (instant : Instant) (span : Span) : Instant :=
  let wholeSeconds := Int.tdiv span nanosPerSecond
  let rest := Int.tmod span nanosPerSecond
  if instant.nanos < nanosPerSecond then instant
  else if 0 < wholeSeconds ∨ (0 < rest ∧ 2 * (nanosPerSecond : Int) ≤ instant.nanos + rest) then
    { instant with nanos := instant.nanos - nanosPerSecond }
  else if wholeSeconds < 0 then
    { instant with nanos := instant.nanos - nanosPerSecond, seconds := instant.seconds + 1 }
  else instant

def plus (instant : Instant) (span : Span) : Option Instant :=
  let start := instant.leaveLeap span
  let moved :=
    if nanosPerSecond ≤ start.nanos then { start with nanos := (start.nanos + span).toNat }
    else
      let total := start.nanos + span
      { start with
        seconds := start.seconds + Int.fdiv total nanosPerSecond
        nanos := (Int.fmod total nanosPerSecond).toNat }
  if moved.inRange then some moved else none

/-- The span from one point in time to another: their days, and their times of day. A leap second
counts where the other time of day is a later one, whatever the days. -/
def minus (first second : Instant) : Span :=
  let leap : Int :=
    if second.secondOfDay < first.secondOfDay ∧ nanosPerSecond ≤ second.nanos then 1
    else if first.secondOfDay < second.secondOfDay ∧ nanosPerSecond ≤ first.nanos then -1
    else 0
  (first.seconds - second.seconds + leap) * nanosPerSecond + ((first.nanos : Int) - second.nanos)

end Instant

end AccessControl.Time
