namespace ExampleBuild

/-! Spans of time, and the short text in which a report gives them. -/

structure Duration where
  seconds : Nat
  nanoseconds : Nat
  bounded : nanoseconds < 1000000000

namespace Duration

def ofNanoseconds (total : Nat) : Duration where
  seconds := total / 1000000000
  nanoseconds := total % 1000000000
  bounded := Nat.mod_lt _ (by decide)

def totalNanoseconds (duration : Duration) : Nat :=
  duration.seconds * 1000000000 + duration.nanoseconds

def milliseconds (duration : Duration) : Nat := duration.nanoseconds / 1000000

def decimal (value : Nat) : String := String.ofList (Nat.toDigits 10 value)

def twoDigits (value : Nat) : String :=
  if value < 10 then "0" ++ decimal value else decimal value

/-- Minutes and seconds from a minute on, seconds with hundredths from a second on,
and milliseconds below. What the smallest unit shown does not hold is cut off. -/
def shown (duration : Duration) : String :=
  if 60 ≤ duration.seconds then
    decimal (duration.seconds / 60) ++ "m " ++ decimal (duration.seconds % 60) ++ "s"
  else if 0 < duration.seconds then
    decimal duration.seconds ++ "." ++ twoDigits (duration.milliseconds / 10) ++ "s"
  else decimal duration.milliseconds ++ "ms"

end Duration

end ExampleBuild
