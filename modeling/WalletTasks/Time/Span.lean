import WalletTasks.Text.Numeral

/-!
# Spans of time

A span is a whole number of nanoseconds. Its text uses the largest of the units s, ms, µs and ns in
which it is at least one, with a fraction that ends in no zero.
-/

namespace WalletTasks

/-- A span of time in nanoseconds. -/
structure Span where
  nanos : Nat
deriving DecidableEq, Repr, Inhabited

namespace Span

def ofSeconds (n : Nat) : Span := ⟨n * 1000000000⟩

def ofMillis (n : Nat) : Span := ⟨n * 1000000⟩

/-- Whole seconds in the span. -/
def seconds (s : Span) : Nat := s.nanos / 1000000000

/-- Whole milliseconds in the span. -/
def millis (s : Span) : Nat := s.nanos / 1000000

/-- A fraction of so many places without the zeros at its end, behind a point; nothing if it is
zero. -/
def fraction (places n : Nat) : List Char :=
  if n = 0 then []
  else '.' :: ((Text.padded places n).reverse.dropWhile (· == '0')).reverse

/-- The span in a unit of `10 ^ places` nanoseconds. -/
def inUnit (s : Span) (places : Nat) (unit : String) : String :=
  String.ofList (Text.digits (s.nanos / 10 ^ places) ++ fraction places (s.nanos % 10 ^ places)) ++
    unit

/-- The span in the largest unit of which it holds at least one. -/
def text (s : Span) : String :=
  if 10 ^ 9 ≤ s.nanos then s.inUnit 9 "s"
  else if 10 ^ 6 ≤ s.nanos then s.inUnit 6 "ms"
  else if 10 ^ 3 ≤ s.nanos then s.inUnit 3 "µs"
  else s.inUnit 0 "ns"

theorem millis_ofMillis (n : Nat) : (ofMillis n).millis = n := by
  simp [millis, ofMillis]

theorem seconds_ofSeconds (n : Nat) : (ofSeconds n).seconds = n := by
  simp [seconds, ofSeconds]

end Span

end WalletTasks
