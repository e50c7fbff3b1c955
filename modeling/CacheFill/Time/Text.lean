import CacheFill.Json.Fields
import CacheFill.Text.Blank
import CacheFill.Text.Digits
import CacheFill.Time.Instant

/-!
Points in time as RFC 3339 text. Writing gives UTC with as few of 0, 3, 6 or 9 fraction digits as
hold the value. Reading is lenient about blanks in front of a part, about leading zeros and about
the separators of date, time and offset.
-/

set_option autoImplicit false

namespace CacheFill.Instant

/-- A year of four digits, or a sign and at least four digits outside 0 to 9999. -/
def yearText (year : Int) : List Char :=
  if 0 ≤ year ∧ year ≤ 9999 then Digits.render 10 4 year.toNat
  else
    let digits := Nat.toDigits 10 year.natAbs
    (if year < 0 then '-' else '+') :: List.replicate (4 - digits.length) '0' ++ digits

def dateText (date : Date) : List Char :=
  yearText date.year ++ '-' :: Digits.render 10 2 date.month ++ '-' :: Digits.render 10 2 date.day

/-- The fraction of a second, from its nanoseconds. -/
def fractionText (nanos : Nat) : List Char :=
  if nanos = 0 then []
  else if nanos % 1000000 = 0 then '.' :: Digits.render 10 3 (nanos / 1000000)
  else if nanos % 1000 = 0 then '.' :: Digits.render 10 6 (nanos / 1000)
  else '.' :: Digits.render 10 9 nanos

/-- The time of day, from its second and the nanoseconds since that began. A leap second is the
second 60 of its minute. -/
def timeText (second nanos : Nat) : List Char :=
  Digits.render 10 2 (second / 3600) ++ ':' :: Digits.render 10 2 (second / 60 % 60) ++
    ':' :: Digits.render 10 2 (second % 60 + nanos / Duration.nanosPerSecond) ++
    fractionText (nanos % Duration.nanosPerSecond)

def date (instant : Instant) : Date := Date.ofDayNumber (instant.second / secondsPerDay)

def secondOfDay (instant : Instant) : Nat := (instant.second % secondsPerDay).toNat

def timeOfDayText (instant : Instant) : List Char := timeText instant.secondOfDay instant.nanos

def renderChars (instant : Instant) : List Char :=
  dateText instant.date ++ 'T' :: instant.timeOfDayText ++ ['Z']

/-- The interchange form, as in `2023-11-14T22:13:20Z`. -/
def render (instant : Instant) : String := String.ofList instant.renderChars

/-- The form for readers of a log, as in `2023-11-14 22:13:20 UTC`. -/
def display (instant : Instant) : String :=
  String.ofList (dateText instant.date ++ ' ' :: instant.timeOfDayText ++ " UTC".toList)

/-- A number of at least one and at most `width` digits. -/
def number? (width : Nat) (text : List Char) : Option (Nat × List Char) :=
  match (Digits.span (text.take width)).1 with
  | [] => none
  | digits => some (Digits.value 10 digits, text.drop digits.length)

/-- A year: up to four digits, or a sign and any number of digits. -/
def year? (text : List Char) : Option (Int × List Char) :=
  match Text.trimStart text with
  | '-' :: rest => (number? rest.length rest).map fun (n, rest) => (-(n : Int), rest)
  | '+' :: rest => (number? rest.length rest).map fun (n, rest) => ((n : Int), rest)
  | rest => (number? 4 rest).map fun (n, rest) => ((n : Int), rest)

/-- A number of one or two digits after blanks. -/
def two? (text : List Char) : Option (Nat × List Char) := number? 2 (Text.trimStart text)

/-- A fixed character after blanks; what follows it. -/
def mark? (mark : Char) (text : List Char) : Option (List Char) :=
  match Text.trimStart text with
  | c :: rest => if c = mark then some rest else none
  | [] => none

/-- The nanoseconds of a fraction of a second: digits after the ninth are dropped. -/
def fraction? : List Char → Option (Nat × List Char)
  | '.' :: text =>
      match Digits.span text with
      | ([], _) => none
      | (digits, rest) =>
          let kept := digits.take 9
          some (Digits.value 10 kept * Nat.pow 10 (9 - kept.length), rest)
  | text => some (0, text)

/-- Two digits. -/
def pair? : List Char → Option (Nat × List Char)
  | a :: b :: rest =>
      match Digits.decimal? a, Digits.decimal? b with
      | some a, some b => some (a * 10 + b, rest)
      | _, _ => none
  | _ => none

/-- The hours and minutes of an offset, in seconds. -/
def hoursAndMinutes? (text : List Char) : Option (Nat × List Char) := do
  let (hours, text) ← pair? text
  let (minutes, text) ← pair? (text.dropWhile fun c => c = ':' || Text.isBlank c)
  if minutes < 60 ∧ hours < 24 then some (hours * 3600 + minutes * 60, text) else none

/-- An offset from UTC in seconds. -/
def offset? (text : List Char) : Option (Int × List Char) :=
  match text with
  | 'Z' :: rest => some (0, rest)
  | 'z' :: rest => some (0, rest)
  | '+' :: rest => (hoursAndMinutes? rest).map fun (n, rest) => ((n : Int), rest)
  | '-' :: rest => (hoursAndMinutes? rest).map fun (n, rest) => (-(n : Int), rest)
  | '\u2212' :: rest => (hoursAndMinutes? rest).map fun (n, rest) => (-(n : Int), rest)
  | u :: t :: c :: rest =>
      if u.toLower = 'u' ∧ t.toLower = 't' ∧ c.toLower = 'c' then some (0, rest) else none
  | _ => none

def isDateTimeMark (c : Char) : Bool := c = 'T' || c = 't' || c = ' '

/-- The point in time that a text stands for. Second 60 of any minute is a leap second. What is
written has to be within the calendar in use, and so has its time in UTC. -/
def parseChars? (text : List Char) : Option Instant := do
  let (year, text) ← year? text
  let text ← mark? '-' text
  let (month, text) ← two? text
  let text ← mark? '-' text
  let (day, text) ← two? text
  let date : Date := ⟨year, month, day⟩
  match text with
  | [] => none
  | c :: text =>
    if isDateTimeMark c ∧ date.IsValid then
      let (hour, text) ← two? text
      let text ← mark? ':' text
      let (minute, text) ← two? text
      let text ← mark? ':' text
      let (second, text) ← two? text
      let (nanos, text) ← fraction? text
      let (offset, text) ← offset? (Text.trimStart text)
      if hour < 24 ∧ minute < 60 ∧ second ≤ 60 ∧ (Text.trimStart text).isEmpty then
        let isLeap := second = 60
        let ordinary := if isLeap then 59 else second
        let written ← ofParts?
          (date.dayNumber * secondsPerDay + (hour * 3600 + minute * 60 + ordinary : Nat))
          (if isLeap then Duration.nanosPerSecond + nanos else nanos)
        ofParts? (written.second - offset) written.nanos
      else none
    else none

def parse? (text : String) : Option Instant := parseChars? text.toList

def toJson (instant : Instant) : Json := .string instant.render

def ofJson? (value : Json) : Option Instant := value.string?.bind parse?

end CacheFill.Instant
