import CiVariables.Decimal.Numeral
import CiVariables.Schema.Check

/-!
# Points in time

A calendar date and a time of day to the microsecond, with an offset from universal time if one is
known. The written form is `2024-01-02T03:04:05.000006Z`; reading also takes a blank or an
underscore between date and time, a comma before the fraction, a date alone, and a count of seconds
(milliseconds if it is large) since 1970. Year zero can be read and counted, but is no valid year.
-/

namespace CiVariables

-- A power is the one of the core library, whatever else is imported.
attribute [local instance (2000)] instPowNat

/-- A date and time of day. -/
structure Timestamp where
  year : Nat
  month : Nat
  day : Nat
  hour : Nat
  minute : Nat
  second : Nat
  microsecond : Nat
  /-- Minutes ahead of universal time. -/
  offset : Option Int
  deriving DecidableEq, Inhabited

namespace Timestamp

/-- A number with at least the given count of digits. -/
def padded (width n : Nat) : List Char :=
  let ds := Nat.toDigits 10 n
  List.replicate (width - ds.length) '0' ++ ds

/-- The offset as written at the end. -/
def offsetText : Option Int → List Char
  | none => []
  | some minutes =>
    if minutes = 0 then ['Z']
    else
      let sign := if minutes < 0 then '-' else '+'
      let n := minutes.natAbs
      sign :: padded 2 (n / 60) ++ ':' :: padded 2 (n % 60)

/-- The written form. Microseconds are left out when zero. -/
def toText (t : Timestamp) : String :=
  String.ofList <|
    padded 4 t.year ++ '-' :: padded 2 t.month ++ '-' :: padded 2 t.day ++
    'T' :: padded 2 t.hour ++ ':' :: padded 2 t.minute ++ ':' :: padded 2 t.second ++
    (if t.microsecond = 0 then [] else '.' :: padded 6 t.microsecond) ++ offsetText t.offset

/-- The year has a 29 February. -/
def isLeap (year : Nat) : Bool := year % 4 == 0 && (year % 100 != 0 || year % 400 == 0)

/-- How many days a month has. -/
def daysIn (year month : Nat) : Nat :=
  if month = 2 then if isLeap year then 29 else 28
  else if month = 4 ∨ month = 6 ∨ month = 9 ∨ month = 11 then 30
  else 31

def isDate (year month day : Nat) : Bool :=
  1 ≤ month && month ≤ 12 && 1 ≤ day && day ≤ daysIn year month

/-- Takes a number of digits, all of which have to be there. -/
def takeDigits? (count : Nat) (cs : List Char) : Option (Nat × List Char) :=
  let ds := cs.take count
  if ds.length = count ∧ ds.all Char.isDigit then
    some (ds.foldl (fun n c => n * 10 + (c.toNat - 48)) 0, cs.drop count)
  else none

/-- Reads year, month and day. -/
def readDate? (cs : List Char) : Option ((Nat × Nat × Nat) × List Char) :=
  match takeDigits? 4 cs with
  | some (year, '-' :: rest) =>
    match takeDigits? 2 rest with
    | some (month, '-' :: rest) =>
      match takeDigits? 2 rest with
      | some (day, rest) =>
        if isDate year month day then some ((year, month, day), rest) else none
      | none => none
    | _ => none
  | _ => none

/-- Reads the offset from universal time, if there is one. -/
def readOffset? (cs : List Char) : Option (Option Int) :=
  let after (sign : Int) (cs : List Char) : Option (Option Int) :=
    match takeDigits? 2 cs with
    | none => none
    | some (hours, rest) =>
      let rest := match rest with | ':' :: rest => rest | rest => rest
      match takeDigits? 2 rest with
      | some (minutes, []) =>
        if minutes < 60 ∧ hours * 60 + minutes < 1440 then
          some (some (sign * (hours * 60 + minutes : Nat)))
        else none
      | _ => none
  match cs with
  | [] => some none
  | ['Z'] | ['z'] => some (some 0)
  | '+' :: rest => after 1 rest
  | '-' :: rest | '\u2212' :: rest => after (-1) rest
  | _ => none

/-- Microseconds from the digits of a fraction; digits after the sixth are dropped. -/
def microseconds (ds : List Char) : Nat :=
  let six := ds.take 6
  six.foldl (fun n c => n * 10 + (c.toNat - 48)) 0 * 10 ^ (6 - six.length)

/-- Reads the seconds with their fraction, which is cut after six digits. -/
def readSeconds? (cs : List Char) : Option ((Nat × Nat) × List Char) :=
  match takeDigits? 2 cs with
  | none => none
  | some (second, rest) =>
    if second ≥ 60 then none
    else
      match rest with
      | '.' :: more | ',' :: more =>
        match more.takeWhile Char.isDigit with
        | [] => none
        | ds => some ((second, microseconds ds), more.dropWhile Char.isDigit)
      | rest => some ((second, 0), rest)

/-- A date, a separator, a time of day and perhaps an offset. -/
def readFull? (cs : List Char) : Option Timestamp := do
  let ((year, month, day), rest) ← readDate? cs
  let rest ← match rest with
    | 'T' :: rest | 't' :: rest | ' ' :: rest | '_' :: rest => some rest
    | _ => none
  let (hour, rest) ← takeDigits? 2 rest
  let rest ← match rest with | ':' :: rest => some rest | _ => none
  let (minute, rest) ← takeDigits? 2 rest
  if hour ≥ 24 ∨ minute ≥ 60 then none
  let ((second, micro), rest) ← match rest with
    | ':' :: rest => readSeconds? rest
    | rest => some ((0, 0), rest)
  let offset ← readOffset? rest
  some ⟨year, month, day, hour, minute, second, micro, offset⟩

/-- The date that lies a count of days after 1 March of year zero. -/
def ofDayCount (days : Nat) : Nat × Nat × Nat :=
  let era := days / 146097
  let dayOfEra := days % 146097
  let yearOfEra :=
    (dayOfEra - dayOfEra / 1460 + dayOfEra / 36524 - dayOfEra / 146096) / 365
  let dayOfYear := dayOfEra - (365 * yearOfEra + yearOfEra / 4 - yearOfEra / 100)
  let shifted := (5 * dayOfYear + 2) / 153
  let day := dayOfYear - (153 * shifted + 2) / 5 + 1
  let month := if shifted < 10 then shifted + 3 else shifted - 9
  let year := yearOfEra + era * 400
  (if month ≤ 2 then year + 1 else year, month, day)

/-- How many days a date lies after 1 March of year zero. -/
def dayCount (year month day : Nat) : Int :=
  let shifted := if month ≤ 2 then month + 9 else month - 3
  let year : Int := if month ≤ 2 then (year : Int) - 1 else year
  365 * year + year / 4 - year / 100 + year / 400 + ((153 * shifted + 2) / 5 : Nat) +
    ((day : Int) - 1)

/-- The second of universal time that a timestamp lies in, counted from 1 March of year zero. -/
def secondCount (t : Timestamp) : Int :=
  dayCount t.year t.month t.day * 86400 + (t.hour * 3600 + t.minute * 60 + t.second : Nat) -
    60 * t.offset.getD 0

/-- Counts beyond this are milliseconds. -/
def millisecondLimit : Nat := 20000000000

/-- The day count of 1 January 1970. -/
def epoch : Int := 719468

/-- The point in universal time that lies a count of seconds and microseconds after 1970. Years from
zero to 9999 are covered. -/
def ofSeconds? (seconds : Int) (micro : Nat) : Option Timestamp :=
  let seconds : Int := seconds + Int.ofNat (micro / 1000000)
  if seconds < -62167219200 ∨ 253402300799 < seconds then none
  else
    -- One cycle of 400 years more keeps the day count positive.
    let (year, month, day) := ofDayCount (seconds / 86400 + epoch + 146097).toNat
    let inDay := (seconds % 86400).toNat
    some
      ⟨year - 400, month, day, inDay / 3600, inDay / 60 % 60, inDay % 60, micro % 1000000, some 0⟩

/-- The point in universal time of a count of seconds, or of milliseconds if the count is large. -/
def ofCount? (count : Int) : Option Timestamp :=
  if count.natAbs ≤ millisecondLimit then ofSeconds? count 0
  else ofSeconds? (count / 1000) ((count % 1000) * 1000).toNat

/-- A count given as a floating-point number; what is beyond a whole second is rounded to
microseconds. -/
def ofDouble? (x : Double) : Option Timestamp :=
  if !x.isFinite then none
  else
    let limit := Double.ofInt millisecondLimit
    let x := if x.le limit && limit.neg.le x then x else x.divNat 1000
    let floor := if x.negative && x.toInt?.isNone then x.truncate - 1 else x.truncate
    let micro := (x.add (Double.ofInt (-floor))).mul (Double.ofInt 1000000)
    let whole := micro.truncate
    let half := Double.ofDecimal false 5 (-1)
    let above := half.le (micro.add (Double.ofInt (-whole)))
    ofSeconds? floor (whole.toNat + if above then 1 else 0)

/-- A count in decimal: a sign, digits, and perhaps a point and an exponent. -/
def readCount? (cs : List Char) : Option Timestamp :=
  let (negative, unsigned) := Numeral.takeSign cs
  if unsigned.isEmpty then none
  else if unsigned.all Char.isDigit then
    let n : Int := Numeral.decimalValue unsigned
    ofCount? (if negative then -n else n)
  else (Numeral.decimal? negative unsigned).bind ofDouble?

/-- The point in time that a text writes: a date and a time of day, a count, or a date alone. -/
def ofText? (s : String) : Option Timestamp :=
  let cs := s.toList
  match readFull? cs with
  | some t => some t
  | none =>
    match readCount? cs with
    | some t => some t
    | none =>
      match readDate? cs with
      | some ((year, month, day), []) => some ⟨year, month, day, 0, 0, 0, 0, none⟩
      | _ => none

end Timestamp

/-- A point in time. Integers that do not fit in 64 bits are only read from values in memory, as
floating-point numbers. -/
def Schema.timestamp (source : Schema.Source) : Schema.Value → Schema.Checked Timestamp
  | .text s =>
    if Text.hasHalf s then .fail .stringUnicode
    else
      match Timestamp.ofText? s with
      | some t => valid t
      | none => .fail .datetimeFromDateParsing
  | .int n =>
    if Schema.fitsWord n then orParsing (Timestamp.ofCount? n)
    else
      let x := Double.ofInt n
      if source = .text ∨ !x.isFinite then .fail .datetimeType
      else orParsing (Timestamp.ofDouble? x)
  | .float x => orParsing (Timestamp.ofDouble? x)
  | _ => .fail .datetimeType
where
  valid (t : Timestamp) : Schema.Checked Timestamp :=
    if t.year = 0 then .fail .datetimeParsing else .valid t
  orParsing : Option Timestamp → Schema.Checked Timestamp
    | some t => valid t
    | none => .fail .datetimeParsing

end CiVariables
