import AgvDispatch.Text.Integer
import AgvDispatch.Time.Calendar
/-!
# Points in time in TOML

A point in time is a day, a time of day, or both with an optional distance from universal time. The
parts have a fixed number of digits, except for the fraction of a second, of which nine digits
count. `Moment.text` is the one written form that everything which denotes the same parts shares.
-/

namespace AgvDispatch.Toml

/-- The distance of a local time from universal time. -/
inductive Offset where
  /-- None, written as a letter. -/
  | universal
  /-- A number of minutes. -/
  | minutes (n : Int)
  deriving DecidableEq, Repr

/-- A point in time. A time of day comes with the digits of the fraction of its second. -/
inductive Moment where
  /-- A day. -/
  | date (d : Date)
  /-- A time of any day. -/
  | clock (t : Clock) (fraction : List Char)
  /-- A time of some day. -/
  | both (d : Date) (t : Clock) (fraction : List Char) (offset : Option Offset)
  deriving DecidableEq, Repr

/-! ### Written form -/

/-- A number with at least so many digits. -/
def padded (digits n : Nat) : String :=
  let text := toString n
  "".pushn '0' (digits - text.length) ++ text

/-- The written form of a day. -/
def dateText (d : Date) : String :=
  padded 4 d.year.toNat ++ "-" ++ padded 2 d.month ++ "-" ++ padded 2 d.day

/-- The written form of a time of day. The fraction has no needless zeros at its end. -/
def clockText (t : Clock) (fraction : List Char) : String :=
  let fraction := (fraction.reverse.dropWhile (· == '0')).reverse
  padded 2 t.hour ++ ":" ++ padded 2 t.minute ++ ":" ++ padded 2 t.second
    ++ (if fraction.isEmpty then "" else "." ++ String.ofList fraction)

/-- The written form of a distance from universal time. -/
def Offset.text : Offset → String
  | universal => "Z"
  | minutes n =>
    (if n < 0 then "-" else "+") ++ padded 2 (n.natAbs / 60) ++ ":" ++ padded 2 (n.natAbs % 60)

/-- The written form of a point in time. -/
def Moment.text : Moment → String
  | date d => dateText d
  | clock t fraction => clockText t fraction
  | both d t fraction offset =>
    dateText d ++ "T" ++ clockText t fraction ++ (offset.map Offset.text).getD ""

/-! ### Reading -/

/-- The number at the beginning of a document that has exactly so many digits, and what follows it.
-/
def fixed? (digits : Nat) (cs : List Char) : Option (Nat × List Char) := do
  let part := cs.take digits
  let n ← Text.readNat? part
  if part.length = digits then some (n, cs.drop digits) else none

/-- What follows a character. -/
def after? (c : Char) : List Char → Option (List Char)
  | d :: rest => if d = c then some rest else none
  | [] => none

/-- The day at the beginning of a document. -/
def date? (cs : List Char) : Option (Date × List Char) := do
  let (year, cs) ← fixed? 4 cs
  let (month, cs) ← fixed? 2 (← after? '-' cs)
  let (day, cs) ← fixed? 2 (← after? '-' cs)
  let d : Date := ⟨year, month, day⟩
  if d.isValid then some (d, cs) else none

/-- The digits of an optional fraction at the beginning of a document, of which nine count. -/
def fraction? : List Char → Option (List Char × List Char)
  | '.' :: cs =>
    let digits := cs.takeWhile Char.isDigit
    if digits.isEmpty then none else some (digits.take 9, cs.drop digits.length)
  | cs => some ([], cs)

/-- The time of day at the beginning of a document, with its fraction. -/
def clock? (cs : List Char) : Option (Clock × List Char × List Char) := do
  let (hour, cs) ← fixed? 2 cs
  let (minute, cs) ← fixed? 2 (← after? ':' cs)
  let (second, cs) ← fixed? 2 (← after? ':' cs)
  let t : Clock := ⟨hour, minute, second⟩
  if t.isValid then (fraction? cs).map fun (fraction, cs) => (t, fraction, cs) else none

/-- The minutes of a distance from universal time, after its sign. -/
def offsetMinutes? (cs : List Char) : Option (Nat × List Char) := do
  let (hours, cs) ← fixed? 2 cs
  let (minutes, cs) ← fixed? 2 (← after? ':' cs)
  if (⟨hours, minutes, 0⟩ : Clock).isValid then some (60 * hours + minutes, cs) else none

/-- The optional distance from universal time at the beginning of a document. A sign must be
followed by one. -/
def offset? : List Char → Option (Option Offset × List Char)
  | 'Z' :: cs | 'z' :: cs => some (some .universal, cs)
  | '+' :: cs => (offsetMinutes? cs).map fun (n, cs) => (some (.minutes n), cs)
  | '-' :: cs => (offsetMinutes? cs).map fun (n, cs) => (some (.minutes (-(n : Int))), cs)
  | cs => some (none, cs)

/-- The time of day that a day at the beginning of a document may be followed by. The mark between
them may be a space, which counts only if there is a time of day after it. -/
def timeOfDay? (d : Date) (cs : List Char) : Option (Moment × List Char) :=
  match cs with
  | 'T' :: rest | 't' :: rest | ' ' :: rest =>
    match clock? rest with
    | some (t, fraction, rest) =>
      (offset? rest).map fun (offset, rest) => (.both d t fraction offset, rest)
    | none => some (.date d, cs)
  | _ => some (.date d, cs)

/-- The point in time at the beginning of a document. -/
def moment? (cs : List Char) : Option (Moment × List Char) :=
  match date? cs with
  | some (d, rest) => timeOfDay? d rest
  | none => (clock? cs).map fun (t, fraction, rest) => (.clock t fraction, rest)

end AgvDispatch.Toml
