import EchoInjector.Text.Numeral

/-!
# Spans of time

A span of time is a number of milliseconds. In diagnostic records it is written in the largest
unit that does not make it smaller than one: whole seconds with a fraction of up to three places
and no trailing zeros, below one second whole milliseconds, and nothing at all as `0ns`.
-/

namespace EchoInjector.Text

/-- The three places behind the point for a number of thousandths, without trailing zeros and
without the point itself when there are none. -/
def thousandths (n : Nat) : String :=
  if n % 1000 = 0 then ""
  else if n % 100 = 0 then "." ++ decimal (n / 100)
  else if n % 10 = 0 then "." ++ String.ofList [digitChar (n / 100), digitChar (n / 10 % 10)]
  else "." ++ String.ofList [digitChar (n / 100), digitChar (n / 10 % 10), digitChar (n % 10)]

/-- A span of milliseconds in its largest fitting unit. -/
def duration (ms : Nat) : String :=
  if ms = 0 then "0ns"
  else if ms < 1000 then decimal ms ++ "ms"
  else decimal (ms / 1000) ++ thousandths (ms % 1000) ++ "s"

end EchoInjector.Text
