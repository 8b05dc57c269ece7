import AgvDispatch.Text.Blank
import AgvDispatch.Text.Integer
import AgvDispatch.Time.Calendar
/-!
# Points in time

Some records carry points in time after the manner of RFC 3339: a date, a time of day with an
optional fraction of a second, and the distance from universal time. The manner is taken loosely.
Blanks may stand before every number and every mark, numbers may lack leading zeros, and a year may
have a sign and then any number of digits. Points in time are checked but not kept.
-/

namespace AgvDispatch.Timestamp

/-- The first day that can be represented. -/
def firstDay : Date := ⟨-262143, 1, 1⟩

/-- The last day that can be represented. -/
def lastDay : Date := ⟨262142, 12, 31⟩

/-- How many seconds a day has. -/
def secondsPerDay : Int := 86400

/-- Whether a local day and time are less than a day away from universal time, where the day can be
represented too. -/
def isMoment (d : Date) (t : Clock) (offset : Int) : Bool :=
  let universal := t.seconds - offset
  d.isValid && t.isValid && decide (firstDay.year ≤ d.year ∧ d.year ≤ lastDay.year)
    && decide (-secondsPerDay < offset ∧ offset < secondsPerDay)
    && !(d == firstDay && decide (universal < 0))
    && !(d == lastDay && decide (secondsPerDay ≤ universal))

/-! ### Reading -/

/-- The number at the beginning of a text, with at most the given number of digits, and the rest. -/
def digits? (most : Nat) (cs : List Char) : Option (Nat × List Char) := do
  let part := (cs.take most).takeWhile Char.isDigit
  let n ← Text.readNat? part
  some (n, cs.drop part.length)

/-- The number at the beginning of a text after blanks. -/
def number? (most : Nat) (cs : List Char) : Option (Nat × List Char) :=
  digits? most (Text.trimStart cs)

/-- The year at the beginning of a text after blanks. Without a sign it has at most four digits. -/
def year? (cs : List Char) : Option (Int × List Char) :=
  match Text.trimStart cs with
  | '-' :: cs => (digits? cs.length cs).map fun (n, rest) => (-(n : Int), rest)
  | '+' :: cs => (digits? cs.length cs).map fun (n, rest) => ((n : Int), rest)
  | cs => (digits? 4 cs).map fun (n, rest) => ((n : Int), rest)

/-- The rest of a text after blanks and a mark. -/
def skip? (mark : Char) (cs : List Char) : Option (List Char) :=
  match Text.trimStart cs with
  | c :: cs => if c = mark then some cs else none
  | [] => none

/-- The date at the beginning of a text. -/
def date? (cs : List Char) : Option (Date × List Char) := do
  let (year, cs) ← year? cs
  let (month, cs) ← number? 2 (← skip? '-' cs)
  let (day, cs) ← number? 2 (← skip? '-' cs)
  some (⟨year, month, day⟩, cs)

/-- The rest of a text after the mark between date and time. -/
def skipDelimiter? : List Char → Option (List Char)
  | c :: cs => if c = 'T' ∨ c = 't' ∨ c = ' ' then some cs else none
  | [] => none

/-- The rest of a text after an optional fraction of a second. -/
def skipFraction? : List Char → Option (List Char)
  | '.' :: cs =>
    if (cs.takeWhile Char.isDigit).isEmpty then none else some (cs.dropWhile Char.isDigit)
  | cs => some cs

/-- The time of day at the beginning of a text. -/
def clock? (cs : List Char) : Option (Clock × List Char) := do
  let (hour, cs) ← number? 2 cs
  let (minute, cs) ← number? 2 (← skip? ':' cs)
  let (second, cs) ← number? 2 (← skip? ':' cs)
  some (⟨hour, minute, second⟩, ← skipFraction? cs)

/-- The minutes of an offset after its hours, and the rest. -/
def offsetMinutes? (cs : List Char) : Option (Nat × List Char) :=
  match cs.dropWhile fun c => c == ':' || Text.isBlank c with
  | c :: d :: rest =>
    if '0' ≤ c ∧ c ≤ '5' then
      (digits? 1 [d]).map fun (n, _) => (10 * (c.toNat - '0'.toNat) + n, rest)
    else none
  | _ => none

/-- The seconds of an offset after its sign. -/
def offsetSeconds? (cs : List Char) : Option (Int × List Char) :=
  match cs with
  | c :: d :: rest => do
    if !(c.isDigit && d.isDigit) then none
    else
      let (hours, _) ← digits? 2 [c, d]
      let (minutes, rest) ← offsetMinutes? rest
      some (3600 * hours + 60 * minutes, rest)
  | _ => none

/-- The distance from universal time at the beginning of a text, in seconds. -/
def offset? (cs : List Char) : Option (Int × List Char) :=
  if ((cs.take 3).map Char.toUpper) == ['U', 'T', 'C'] then some (0, cs.drop 3)
  else
    match cs with
    | 'Z' :: rest | 'z' :: rest => some (0, rest)
    | '+' :: rest => offsetSeconds? rest
    | '-' :: rest | '−' :: rest => (offsetSeconds? rest).map fun (n, rest) => (-n, rest)
    | _ => none

/-- Whether a text is a point in time. -/
def isValid (s : String) : Bool :=
  (parse? s.toList).any fun (d, t, offset) => isMoment d t offset
where
  /-- The parts of a point in time, one after the other. -/
  parse? (cs : List Char) : Option (Date × Clock × Int) := do
    let (d, cs) ← date? cs
    let (t, cs) ← clock? (← skipDelimiter? cs)
    let (offset, rest) ← offset? (Text.trimStart cs)
    if (Text.trimStart rest).isEmpty then some (d, t, offset) else none

end AgvDispatch.Timestamp
