import K8sClue.Python.Text

/-! Datetimes as the source compares and stores them.
A moment is a whole number of microseconds, the resolution of both Python's datetimes and
PostgreSQL's `timestamptz`.
-/

namespace K8sClue.Python

open List

/-- A datetime with or without a time zone. An aware one is a moment; a naive one holds the
microseconds of its wall clock and stands for no moment of its own.
-/
inductive Datetime where
  | aware (moment : Int)
  | naive (wallClock : Int)
  deriving DecidableEq

/-- The runtime's conversions between moments and milliseconds. Both go through a double. -/
structure Calendar where
  /-- `int(value.timestamp() * 1_000)` -/
  milliseconds : Int → Int
  /-- `datetime.fromtimestamp(milliseconds / 1_000, tz=UTC)` -/
  fromMilliseconds : Int → Int

/-- The conversions without the rounding of a double; `int` truncates towards zero. -/
def exactCalendar : Calendar where
  milliseconds := fun moment => if 0 ≤ moment then moment / 1000 else -(-moment / 1000)
  fromMilliseconds := fun ms => ms * 1000

/-- A datetime without a zone is taken to be in UTC. -/
def utcMoment : Datetime → Int
  | .aware moment => moment
  | .naive wallClock => wallClock

def zuluOffset (value : String) : String :=
  String.ofList (value.toList.flatMap fun char =>
    if char = 'Z' then "+00:00".toList else [char])

/-- The runtime's ISO 8601 texts. The zone that an aware datetime is written in is left out. -/
structure IsoFormat where
  /-- `datetime.fromisoformat(text)`, or its `ValueError` -/
  parse : String → Option Datetime
  /-- `value.isoformat()` of an aware datetime -/
  write : Int → String

/-- The decimal digits of a number, the lowest first. -/
def lowestDigits : Nat → Nat → List Char
  | 0, _ => []
  | fuel + 1, number =>
    if number = 0 then [] else Char.ofNat (48 + number % 10) :: lowestDigits fuel (number / 10)

def ofLowestDigits (digits : List Char) : Nat :=
  digits.foldr (fun digit number => (digit.toNat - 48) + 10 * number) 0

theorem digit_toNat
    : ∀ digit < 10,
      (Char.ofNat (48 + digit)).toNat = 48 + digit ∧ (Char.ofNat (48 + digit)).isDigit := by
  decide

theorem ofLowestDigits_lowestDigits (fuel number : Nat) (enough : number ≤ fuel)
    : ofLowestDigits (lowestDigits fuel number) = number := by
  induction fuel generalizing number with
  | zero => simp [lowestDigits, ofLowestDigits, Nat.le_zero.mp enough]
  | succ fuel ih =>
    rw [lowestDigits]
    split
    next zero => simp [ofLowestDigits, zero]
    next positive =>
      have rest := ih (number / 10) (by omega)
      have digit := (digit_toNat (number % 10) (Nat.mod_lt _ (by decide))).1
      change (Char.ofNat (48 + number % 10)).toNat - 48
        + 10 * ofLowestDigits (lowestDigits fuel (number / 10)) = number
      omega

theorem lowestDigits_isDigit (fuel number : Nat)
    : ∀ char ∈ lowestDigits fuel number, char.isDigit = true := by
  induction fuel generalizing number with
  | zero => simp [lowestDigits]
  | succ fuel ih =>
    rw [lowestDigits]
    split
    · simp
    · intro char mem
      rcases mem_cons.mp mem with rfl | later
      · exact (digit_toNat (number % 10) (Nat.mod_lt _ (by decide))).2
      · exact ih (number / 10) char later

/-- An aware datetime by its fields in UTC, as `astimezone(UTC)` leaves them. -/
structure UtcTime where
  (year month day hour minute second microsecond : Nat)
  year_lt : year < 10000
  month_lt : month < 13
  day_lt : day < 32
  hour_lt : hour < 24
  minute_lt : minute < 60
  second_lt : second < 60
  microsecond_lt : microsecond < 1000000

def digitOf (number : Nat) : Char := Char.ofNat (48 + number % 10)

def twoDigits (number : Nat) : List Char := [digitOf (number / 10), digitOf number]

/-- `isoformat().replace("+00:00", "Z")`, which leaves out a fraction of zero. -/
def UtcTime.wireText (time : UtcTime) : String :=
  String.ofList (twoDigits (time.year / 100) ++ twoDigits time.year ++ '-' :: twoDigits time.month
    ++ '-' :: twoDigits time.day ++ 'T' :: twoDigits time.hour ++ ':' :: twoDigits time.minute
    ++ ':' :: twoDigits time.second
    ++ (if time.microsecond = 0 then
          []
        else
          '.' :: twoDigits (time.microsecond / 10000) ++ twoDigits (time.microsecond / 100)
            ++ twoDigits time.microsecond)
    ++ ['Z'])

theorem digitOf_inj {number other : Nat}
    : digitOf number = digitOf other ↔ number % 10 = other % 10 := by
  refine ⟨fun same => ?_, fun same => by rw [digitOf, digitOf, same]⟩
  have codes := congrArg Char.toNat same
  rw [digitOf, digitOf, (digit_toNat _ (Nat.mod_lt _ (by decide))).1,
    (digit_toNat _ (Nat.mod_lt _ (by decide))).1] at codes
  omega

theorem digitOf_ne_colon (number : Nat) : digitOf number ≠ ':' := by
  intro same
  have digit := (digit_toNat (number % 10) (Nat.mod_lt _ (by decide))).2
  rw [← digitOf, same] at digit
  cases digit

theorem UtcTime.wireText_colons (time : UtcTime) : time.wireText.toList.count ':' = 2 := by
  rw [wireText, String.toList_ofList]
  split <;> simp [twoDigits, digitOf_ne_colon]

theorem UtcTime.wireText_injective {time other : UtcTime} (same : time.wireText = other.wireText)
    : time = other := by
  have chars := congrArg String.toList same
  obtain ⟨year, month, day, hour, minute, second, microsecond, _, _, _, _, _, _, _⟩ := time
  obtain ⟨year', month', day', hour', minute', second', microsecond', _, _, _, _, _, _, _⟩ := other
  simp only [wireText, twoDigits, String.toList_ofList, cons_append, nil_append, cons.injEq,
    digitOf_inj] at chars
  split at chars <;> split at chars <;> simp [digitOf_inj] at chars ⊢ <;> omega

/-- A runtime that writes a moment as a sign and its digits, the lowest first. -/
def digitIso : IsoFormat where
  parse := fun text =>
    match text.toList with
    | '-' :: digits => some (.aware (-ofLowestDigits digits))
    | '+' :: digits => some (.aware (ofLowestDigits digits))
    | _ => none
  write := fun moment =>
    String.ofList ((if moment < 0 then '-' else '+') :: lowestDigits moment.natAbs moment.natAbs)

end K8sClue.Python
