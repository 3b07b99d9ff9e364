import DocPages.Value.Key

/-!
# Dates and times

A `Moment` is a day of the calendar, perhaps with a time of that day and a distance from
universal time.  `Moment.parts?` reads one and `Moment.shown` is the value that it is.
-/

namespace DocPages

namespace Yaml

/-- A time of day, and the distance from universal time in minutes if it is known. -/
structure Time where
  hour : Nat
  minute : Nat
  second : Nat
  microsecond : Nat
  zone : Option Int

/-- A day, perhaps with a time. -/
structure Moment where
  year : Nat
  month : Nat
  day : Nat
  time : Option Time

namespace Moment

/-- The number that digits write. -/
def natOf (ds : List Char) : Nat :=
  ds.foldl (fun n d => 10 * n + (d.toNat - '0'.toNat)) 0

/-- A number of `low` to `high` digits, the most there are, and what follows. -/
def digits? (low high : Nat) (cs : List Char) : Option (List Char × List Char) :=
  let ds := (cs.take high).takeWhile Char.isDigit
  if ds.length < low then none else some (ds, cs.drop ds.length)

/-- What follows the character `c`. -/
def after? (c : Char) : List Char → Option (List Char)
  | d :: cs => if d == c then some cs else none
  | [] => none

/-- The digits of a fraction as millionths. -/
def millionths (ds : List Char) : Nat :=
  natOf (ds.take 6 ++ List.replicate (6 - ds.length) '0')

/-- The distance from universal time in minutes, and what follows. -/
def zone? (cs : List Char) : Option (Int × List Char) :=
  match cs with
  | 'Z' :: cs => some (0, cs)
  | sign :: cs =>
    if sign == '+' || sign == '-' then do
      let (hours, cs) ← digits? 1 2 cs
      let (minutes, cs) := match after? ':' cs with
        | some r =>
          match digits? 2 2 r with
          | some (ms, r) => (natOf ms, r)
          | none => (0, cs)
        | none => (0, cs)
      let n : Int := 60 * natOf hours + minutes
      some (if sign == '-' then -n else n, cs)
    else none
  | [] => none

/-- The time that a text writes. -/
def time? (cs : List Char) : Option Time := do
  let (hour, cs) ← digits? 1 2 cs
  let cs ← after? ':' cs
  let (minute, cs) ← digits? 2 2 cs
  let cs ← after? ':' cs
  let (second, cs) ← digits? 2 2 cs
  let (fraction, cs) := match after? '.' cs with
    | some cs => (cs.takeWhile Char.isDigit, cs.dropWhile Char.isDigit)
    | none => ([], cs)
  let time (zone : Option Int) : Time :=
    ⟨natOf hour, natOf minute, natOf second, millionths fraction, zone⟩
  if cs.isEmpty then some (time none)
  else do
    let (zone, cs) ← zone? (cs.dropWhile fun c => c == ' ' || c == '\t')
    if cs.isEmpty then some (time (some zone)) else none

/-- The moment that a text writes, and the digits of its month and its day. -/
def parts? (cs : List Char) : Option (Moment × Nat × Nat) := do
  let (year, cs) ← digits? 4 4 cs
  let cs ← after? '-' cs
  let (month, cs) ← digits? 1 2 cs
  let cs ← after? '-' cs
  let (day, cs) ← digits? 1 2 cs
  let moment (time : Option Time) : Moment × Nat × Nat :=
    (⟨natOf year, natOf month, natOf day, time⟩, month.length, day.length)
  match cs with
  | [] => some (moment none)
  | c :: r =>
    if c == 'T' || c == 't' then do some (moment (some (← time? r)))
    else if c == ' ' || c == '\t' then do
      some (moment (some (← time? (r.dropWhile fun c => c == ' ' || c == '\t'))))
    else none

/-- Does the text write a moment without saying so? -/
def isImplicit (cs : List Char) : Bool :=
  match parts? cs with
  | some (m, monthDigits, dayDigits) => m.time.isSome || (monthDigits == 2 && dayDigits == 2)
  | none => false

/-- The number of days of a month. -/
def daysIn (year month : Nat) : Nat :=
  if month == 2 then
    if year % 4 == 0 && (year % 100 != 0 || year % 400 == 0) then 29 else 28
  else if [4, 6, 9, 11].contains month then 30
  else 31

/-- Is there such a day, such a time and such a zone? -/
def exists_ (m : Moment) : Bool :=
  1 ≤ m.year && 1 ≤ m.month && m.month ≤ 12 && 1 ≤ m.day && m.day ≤ daysIn m.year m.month
    && m.time.all fun t =>
      t.hour < 24 && t.minute < 60 && t.second < 60 && t.zone.all fun z => z.natAbs < 24 * 60

/-- A number with zeros before it, up to a number of digits. -/
def padded (width n : Nat) : List Char :=
  let ds := Nat.toDigits 10 n
  List.replicate (width - ds.length) '0' ++ ds

/-- The distance from universal time behind a time. -/
def zoneText (z : Int) : List Char :=
  (if z < 0 then '-' else '+') :: padded 2 (z.natAbs / 60) ++ ':' :: padded 2 (z.natAbs % 60)

/-- The moment as text. -/
def text (m : Moment) : String :=
  let day := padded 4 m.year ++ '-' :: padded 2 m.month ++ '-' :: padded 2 m.day
  let time : List Char := match m.time with
    | none => []
    | some t =>
      ' ' :: padded 2 t.hour ++ ':' :: padded 2 t.minute ++ ':' :: padded 2 t.second
        ++ (if t.microsecond == 0 then [] else '.' :: padded 6 t.microsecond)
        ++ (t.zone.map zoneText).getD []
  String.ofList (day ++ time)

/-- The distance from universal time as it is named inside lists. -/
def quotedZone (z : Int) : String :=
  if z == 0 then "datetime.timezone.utc"
  else
    let days := Int.fdiv z (24 * 60)
    let seconds := 60 * Int.fmod z (24 * 60)
    let parts := (if days == 0 then [] else ["days=" ++ intText days])
      ++ (if seconds == 0 then [] else ["seconds=" ++ intText seconds])
    "datetime.timezone(datetime.timedelta(" ++ ", ".intercalate parts ++ "))"

/-- The moment as it is named inside lists. -/
def quoted (m : Moment) : String :=
  let day := [m.year, m.month, m.day]
  match m.time with
  | none => "datetime.date(" ++ ", ".intercalate (day.map toString) ++ ")"
  | some t =>
    let time := [t.hour, t.minute]
      ++ (if t.microsecond != 0 then [t.second, t.microsecond]
        else if t.second != 0 then [t.second] else [])
    let zone := match t.zone with
      | none => []
      | some z => ["tzinfo=" ++ quotedZone z]
    "datetime.datetime(" ++ ", ".intercalate ((day ++ time).map toString ++ zone) ++ ")"

/-- The value that a moment is. -/
def shown (m : Moment) : Shown :=
  ⟨if m.time.isSome then "datetime" else "date", m.text, m.quoted, true⟩

end Moment

end Yaml

end DocPages
