import CiVariables.Text.Quoted
import CiVariables.Timestamp
import CiVariables.Yaml.Tag

/-!
# Dates and times in a document

A timestamp is a date, or a date and a time of day that may name its zone. `Moment.ofText?` reads
one, rounding fractions to microseconds. Two are the same moment if they are one date, one time of
day without a zone, or one instant in two zones.
-/

namespace CiVariables.Yaml

open CiVariables

/-- A date, or a date and a time of day. -/
inductive Moment where
  | date (year month day : Nat)
  /-- A time of day, and how its zone is written if it has one. -/
  | time (t : Timestamp) (zone : String)
  deriving DecidableEq, Inhabited

namespace Moment

/-- They are the same moment. -/
def same : Moment → Moment → Bool
  | .date y m d, .date y' m' d' => y == y' && m == m' && d == d'
  | .time t _, .time u _ =>
    t.offset.isSome == u.offset.isSome && t.secondCount == u.secondCount &&
      t.microsecond == u.microsecond
  | _, _ => false

/-- One or two digits at the front. -/
def upToTwoDigits? (cs : List Char) : Option (Nat × List Char) :=
  match (cs.take 2).takeWhile Char.isDigit with
  | [] => none
  | ds => some (Numeral.decimalValue ds, cs.drop ds.length)

/-- Microseconds from the digits of a fraction, the seventh of which rounds them. -/
def microseconds (ds : List Char) : Nat :=
  let six := Timestamp.microseconds ds
  match ds.drop 6 with
  | c :: _ => if '5' ≤ c then six + 1 else six
  | [] => six

/-- The zone after spaces: its offset in minutes and how it is written. -/
def zone? (cs : List Char) : Option (Option (Int × String)) :=
  let cs := cs.dropWhile fun c => c == ' ' || c == '\t'
  let signed (sign : Int) (rest : List Char) : Option (Option (Int × String)) := do
    let (hours, rest) ← upToTwoDigits? rest
    let minutes ←
      match rest with
      | [] => some 0
      | ':' :: rest =>
        match Timestamp.takeDigits? 2 rest with
        | some (n, []) => some n
        | _ => none
      | _ => none
    let offset := hours * 60 + minutes
    if offset < 1440 then some (some (sign * offset, String.ofList cs)) else none
  match cs with
  | [] => some none
  | ['Z'] => some (some (0, "Z"))
  | '+' :: rest => signed 1 rest
  | '-' :: rest => signed (-1) rest
  | _ => none

/-- The timestamp one second later, if there is one. -/
def nextSecond? (t : Timestamp) : Option Timestamp :=
  let local₀ := { t with offset := some 0 }
  match Timestamp.ofSeconds? (local₀.secondCount - Timestamp.epoch * 86400 + 1) 0 with
  | some u => some { u with offset := t.offset }
  | none => none

/-- The rest of a point in time after its date. -/
def timeOf? (year month day : Nat) (cs : List Char) : Option Moment := do
  let (hour, rest) ← upToTwoDigits? cs
  let (minute, rest) ← Timestamp.takeDigits? 2 (← Tag.dropChar? ':' rest)
  let (second, rest) ← Timestamp.takeDigits? 2 (← Tag.dropChar? ':' rest)
  let (fraction, rest) :=
    match rest with
    | '.' :: rest => (rest.takeWhile Char.isDigit, rest.dropWhile Char.isDigit)
    | rest => ([], rest)
  let zone ← zone? rest
  if hour < 24 ∧ minute < 60 ∧ second < 60 then
    let micro := microseconds fraction
    let t : Timestamp :=
      ⟨year, month, day, hour, minute, second, micro % 1000000, zone.map (·.1)⟩
    let t ← if micro < 1000000 then some t else nextSecond? t
    some (.time t ((zone.map (·.2)).getD ""))
  else none

/-- The date or point in time that a text writes. -/
def ofText? (text : List Char) : Option Moment := do
  let cs := Tag.dropFinalBreak text
  let (year, rest) ← Timestamp.takeDigits? 4 cs
  let (month, rest) ← upToTwoDigits? (← Tag.dropChar? '-' rest)
  let (day, rest) ← upToTwoDigits? (← Tag.dropChar? '-' rest)
  if year = 0 ∨ !Timestamp.isDate year month day then none
  else if rest.isEmpty then some (.date year month day)
  else timeOf? year month day (← Tag.dropSeparator? rest)

/-- A difference of a number of minutes, as days and seconds. -/
def differenceLabel (minutes : Int) : String :=
  let days := minutes / 1440
  let seconds := minutes % 1440 * 60
  let parts :=
    (if days = 0 then [] else ["days=" ++ toString days]) ++
      (if seconds = 0 then [] else ["seconds=" ++ toString seconds])
  "datetime.timedelta(" ++
    (if parts.isEmpty then "0" else CiVariables.Text.join ", " parts) ++ ")"

def label : Moment → String
  | .date y m d =>
    "datetime.date(" ++ CiVariables.Text.join ", " ([y, m, d].map toString) ++ ")"
  | .time t zone =>
    let numbers :=
      [t.year, t.month, t.day, t.hour, t.minute] ++
        (if t.microsecond ≠ 0 then [t.second, t.microsecond]
          else if t.second ≠ 0 then [t.second] else [])
    let place :=
      match t.offset with
      | some minutes =>
        ["tzinfo=datetime.timezone(" ++ differenceLabel minutes ++ ", " ++
          CiVariables.Text.quoted zone ++ ")"]
      | none => []
    "datetime.datetime(" ++ CiVariables.Text.join ", " (numbers.map toString ++ place) ++ ")"

def kindName : Moment → String
  | .date .. => "datetime.date"
  | .time .. => "datetime.datetime"

end Moment

end CiVariables.Yaml
