/-! # Spans of a list

A span names consecutive places of a list, the last one left out. A span that
ends where it starts, or before, names none. -/

namespace PagedTable

structure Span where
  start : Nat
  stop : Nat
deriving DecidableEq, Repr

namespace Span

def length (span : Span) : Nat :=
  span.stop - span.start

def places (span : Span) : List Nat :=
  List.range' span.start span.length

def Holds (span : Span) (place : Nat) : Prop :=
  span.start ≤ place ∧ place < span.stop

instance (span : Span) (place : Nat) : Decidable (span.Holds place) :=
  inferInstanceAs (Decidable (_ ∧ _))

def of {α : Type} (span : Span) (values : List α) : List α :=
  (values.take span.stop).drop span.start

example : (Span.mk 1 3).of ["a", "b", "c", "d"] = ["b", "c"] := by decide

end Span

end PagedTable
