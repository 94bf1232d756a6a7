/-!
# Places in a pattern

A place lies in front of a character of a pattern or at its end. It is given by its line and its
column, both counted from one. A **span** is the stretch between two places.
-/

namespace EchoInjector.Pattern

/-- A place in a pattern. -/
structure Place where
  line : Nat := 1
  column : Nat := 1
  deriving DecidableEq, Repr

/-- The place behind a character that stands at a place. -/
def Place.behind (p : Place) (c : Char) : Place :=
  if c = '\n' then ⟨p.line + 1, 1⟩ else { p with column := p.column + 1 }

/-- Whether a place lies before another. -/
def Place.isBefore (p q : Place) : Bool :=
  p.line < q.line || (p.line = q.line && p.column < q.column)

/-- A stretch of a pattern. It is empty if it stops where it starts. -/
structure Span where
  start : Place
  stop : Place
  deriving DecidableEq, Repr

namespace Span

/-- The empty span at a place. -/
def ofPlace (p : Place) : Span := ⟨p, p⟩

/-- Whether a span stops in the line in which it starts. -/
def isOneLine (s : Span) : Bool := s.start.line = s.stop.line

/-- Whether a span comes before another: it starts before it, or with it and stops before it. -/
def isBefore (s t : Span) : Bool :=
  s.start.isBefore t.start || (s.start = t.start && s.stop.isBefore t.stop)

end Span

end EchoInjector.Pattern
