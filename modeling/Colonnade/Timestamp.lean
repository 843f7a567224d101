/-!
# Timestamps

A date, or a date with a time of day and an offset, as a settings file writes them; checked against
the calendar field by field, the first out of range giving the fault, and shown as ISO text or in
constructor form.
-/

namespace Colonnade

/-- A time of day: hour, minute, second and microsecond, and the offset from universal time in
minutes when the time gives one. -/
structure Clock where
  hour : Nat
  minute : Nat
  second : Nat
  micro : Nat
  offset : Option Int
  deriving DecidableEq, Repr

/-- A date, with a time of day or without. -/
structure Timestamp where
  year : Nat
  month : Nat
  day : Nat
  clock : Option Clock
  deriving DecidableEq, Repr

namespace Timestamp

def isDigit (c : Char) : Bool := '0' ≤ c && c ≤ '9'

def digitsValue (cs : List Char) : Nat := cs.foldl (fun n c => 10 * n + (c.toNat - 48)) 0

/-- At least `least` and at most `most` leading digits, and what follows them. -/
def digits (least most : Nat) (cs : List Char) : Option (List Char × List Char) :=
  let ds := (cs.takeWhile isDigit).take most
  if ds.length < least then none else some (ds, cs.drop ds.length)

/-- What follows a leading character, if it is the one expected. -/
def after (c : Char) : List Char → Option (List Char)
  | d :: rest => if d = c then some rest else none
  | [] => none

/-- Characters without their leading spaces and tabs. -/
def dropSpace (cs : List Char) : List Char := cs.dropWhile fun c => c = ' ' || c = '\t'

/-- The offset that ends a time, in minutes: `Z`, or a sign, one or two digits of hours and
optionally a colon and two digits of minutes; none for nothing. Fails on anything else. -/
def offsetOf? (cs : List Char) : Option (Option Int) :=
  match dropSpace cs with
  | [] => if cs.isEmpty then some none else none
  | ['Z'] => some (some 0)
  | s :: rest =>
    if s = '+' || s = '-' then do
      let (h, rest) ← digits 1 2 rest
      let m ← match rest with
        | [] => some 0
        | ':' :: ms => if ms.length = 2 && ms.all isDigit then some (digitsValue ms) else none
        | _ => none
      let minutes : Int := (60 * digitsValue h + m : Nat)
      some (some (if s = '-' then -minutes else minutes))
    else none

/-- The microseconds of a fraction of a second: its first six digits, padded with zeros. -/
def microOf (fraction : List Char) : Nat :=
  digitsValue ((fraction.take 6) ++ List.replicate (6 - fraction.length) '0')

/-- The time of day after a date: a `T`, a `t` or blanks, then hours, minutes, seconds, an
optional fraction and an optional offset. -/
def clockOf? (cs : List Char) : Option Clock := do
  let cs ← match cs with
    | 'T' :: rest | 't' :: rest => some rest
    | c :: _ => if c = ' ' || c = '\t' then some (dropSpace cs) else none
    | [] => none
  let (h, cs) ← digits 1 2 cs
  let cs ← after ':' cs
  let (m, cs) ← digits 2 2 cs
  let cs ← after ':' cs
  let (s, cs) ← digits 2 2 cs
  let (fraction, cs) := match cs with
    | '.' :: rest => (rest.takeWhile isDigit, rest.dropWhile isDigit)
    | _ => ([], cs)
  let offset ← offsetOf? cs
  some ⟨digitsValue h, digitsValue m, digitsValue s, microOf fraction, offset⟩

/-- The timestamp that characters write, if they have the form of one. -/
def ofChars? (cs : List Char) : Option Timestamp := do
  let (y, cs) ← digits 4 4 cs
  let cs ← after '-' cs
  let (mo, cs) ← digits 1 2 cs
  let cs ← after '-' cs
  let (d, cs) ← digits 1 2 cs
  if cs.isEmpty then some ⟨digitsValue y, digitsValue mo, digitsValue d, none⟩
  else
    let c ← clockOf? cs
    some ⟨digitsValue y, digitsValue mo, digitsValue d, some c⟩

/-- Whether a year is a leap year of the Gregorian calendar. -/
def isLeap (year : Nat) : Bool := year % 4 == 0 && (year % 100 != 0 || year % 400 == 0)

def daysIn (year month : Nat) : Nat :=
  match month with
  | 2 => if isLeap year then 29 else 28
  | 4 | 6 | 9 | 11 => 30
  | _ => 31

/-- The constructor form of a span of time, normalised to whole days and the seconds left. -/
def spanText (seconds : Int) : String :=
  let days := seconds.fdiv 86400
  let rest := seconds.fmod 86400
  let parts := (if days != 0 then [s!"days={days}"] else []) ++
    (if rest != 0 then [s!"seconds={rest}"] else [])
  if parts.isEmpty then "datetime.timedelta(0)"
  else "datetime.timedelta(" ++ ", ".intercalate parts ++ ")"

def dateFault? (t : Timestamp) : Option String :=
  if t.year < 1 then some s!"year {t.year} is out of range"
  else if t.month < 1 || t.month > 12 then some "month must be in 1..12"
  else if t.day < 1 || t.day > daysIn t.year t.month then some "day is out of range for month"
  else none

/-- The fault of a timestamp, if the calendar refuses it: the offset is checked first, then
the date, then the time of day. -/
def fault? (t : Timestamp) : Option String :=
  match t.clock with
  | none => dateFault? t
  | some c =>
    let offsetFault := match c.offset with
      | some m =>
        if m.natAbs ≥ 1440 then
          some ("offset must be a timedelta strictly between -timedelta(hours=24) and " ++
            s!"timedelta(hours=24), not {spanText (60 * m)}.")
        else none
      | none => none
    match offsetFault with
    | some f => some f
    | none =>
      match dateFault? t with
      | some f => some f
      | none =>
        if c.hour > 23 then some "hour must be in 0..23"
        else if c.minute > 59 then some "minute must be in 0..59"
        else if c.second > 59 then some "second must be in 0..59"
        else none

/-- A number in at least `width` digits, padded with zeros. -/
def padded (width n : Nat) : String :=
  let ds := Nat.toDigits 10 n
  String.ofList (List.replicate (width - ds.length) '0' ++ ds)

/-- The ISO text of an offset: sign, hours and minutes. -/
def offsetText (m : Int) : String :=
  (if m < 0 then "-" else "+") ++ padded 2 (m.natAbs / 60) ++ ":" ++ padded 2 (m.natAbs % 60)

/-- The ISO text of a timestamp, with a space between date and time. -/
def isoText (t : Timestamp) : String :=
  let date := s!"{padded 4 t.year}-{padded 2 t.month}-{padded 2 t.day}"
  match t.clock with
  | none => date
  | some c =>
    date ++ " " ++ s!"{padded 2 c.hour}:{padded 2 c.minute}:{padded 2 c.second}" ++
      (if c.micro != 0 then "." ++ padded 6 c.micro else "") ++
      (match c.offset with
       | some m => offsetText m
       | none => "")

/-- The constructor form of a timestamp; a time shows its second only when it or the
microsecond is not zero, and its microsecond only when that is not zero. -/
def constructorText (t : Timestamp) : String :=
  match t.clock with
  | none => s!"datetime.date({t.year}, {t.month}, {t.day})"
  | some c =>
    let fields := [t.year, t.month, t.day, c.hour, c.minute] ++
      (if c.micro != 0 then [c.second, c.micro] else if c.second != 0 then [c.second] else [])
    let zone := match c.offset with
      | some 0 => ", tzinfo=datetime.timezone.utc"
      | some m => s!", tzinfo=datetime.timezone({spanText (60 * m)})"
      | none => ""
    "datetime.datetime(" ++ ", ".intercalate (fields.map toString) ++ zone ++ ")"

end Timestamp

end Colonnade
