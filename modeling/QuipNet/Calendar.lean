import QuipNet.Model

/-!
# Event timestamps

The calendar arithmetic of the `chrono_like` module: days since 1970-01-01 to a
proleptic Gregorian date, in `i64` with division that truncates towards zero. The year is
cast to an `i32` and wraps.
-/

namespace QuipNet.Calendar

structure DateTime where
  year : ℤ
  month : ℕ
  day : ℕ
  hour : ℕ
  minute : ℕ
  second : ℕ
deriving DecidableEq, Repr

def civilFromDays (days : ℤ) : ℤ × ℕ × ℕ :=
  let z := days + 719468
  let era := (if z ≥ 0 then z else z - 146096).tdiv 146097
  let doe := z - era * 146097
  let yoe := (doe - doe.tdiv 1460 + doe.tdiv 36524 - doe.tdiv 146096).tdiv 365
  let y := yoe + era * 400
  let doy := doe - (365 * yoe + yoe.tdiv 4 - yoe.tdiv 100)
  let mp := (5 * doy + 2).tdiv 153
  let d := doy - (153 * mp + 2).tdiv 5 + 1
  let m := mp + if mp < 10 then 3 else -9
  let year := y + if m ≤ 2 then 1 else 0
  (Int.bmod year (2 ^ 32), m.toNat, d.toNat)

def DateTime.fromUnix (epochSecs : ℤ) : DateTime :=
  let days := epochSecs / 86400
  let seconds := (epochSecs % 86400).toNat
  let (year, month, day) := civilFromDays days
  ⟨year, month, day, seconds / 3600, seconds % 3600 / 60, seconds % 60⟩

/-- `{:0width$}` of an unsigned number. -/
def zeroPadded (width n : ℕ) : String :=
  let digits := (Nat.repr n).toList
  String.ofList (List.replicate (width - digits.length) '0' ++ digits)

def zeroPaddedInt (width : ℕ) (n : ℤ) : String :=
  if n < 0 then "-" ++ zeroPadded (width - 1) n.natAbs else zeroPadded width n.natAbs

/-- The cast of the `u64` reading to `i64` wraps. -/
def iso8601Seconds (epochSecs : ℕ) : String :=
  let datetime := DateTime.fromUnix (Int.bmod epochSecs (2 ^ 64))
  zeroPaddedInt 4 datetime.year ++ "-" ++ zeroPadded 2 datetime.month ++ "-" ++
    zeroPadded 2 datetime.day ++ "T" ++ zeroPadded 2 datetime.hour ++ ":" ++
    zeroPadded 2 datetime.minute ++ ":" ++ zeroPadded 2 datetime.second

end QuipNet.Calendar
