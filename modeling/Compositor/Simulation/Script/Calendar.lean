import Compositor.Simulation.Script.Arithmetic

set_option autoImplicit false

/-!
# The calendar

A moment is a number of seconds since the beginning of 1970, and its date is that of the Gregorian
calendar at zero longitude.

## Main definitions

* `Script.Calendar.Date` — a date with its time of day.
* `Script.Calendar.ofSeconds`, `Script.Calendar.seconds` — moments as dates, and back.
* `Script.Calendar.formatted` — a moment in a format.
* `Script.Calendar.ofText?` — the moment that a text describes.
-/

namespace Compositor.Script.Calendar

open Reader

/-- A date with its time of day. -/
structure Date where
  /-- The year. -/
  year : Int
  /-- The month, from 1 on. -/
  month : Nat
  /-- The day of the month, from 1 on. -/
  day : Nat
  /-- The hour. -/
  hour : Nat
  /-- The minute. -/
  minute : Nat
  /-- The second. -/
  second : Nat

/-- Whether a year has a leap day. -/
def isLeap (year : Int) : Bool :=
  year % 4 == 0 && (year % 100 != 0 || year % 400 == 0)

/-- The number of days from the beginning of 1970 to a date. -/
def daysTo (year : Int) (month day : Nat) : Int :=
  let y := if month ≤ 2 then year - 1 else year
  let era := y / 400
  let yearOfEra := y - era * 400
  let shifted : Int := (month + 9) % 12
  let dayOfYear := (153 * shifted + 2) / 5 + day - 1
  let dayOfEra := yearOfEra * 365 + yearOfEra / 4 - yearOfEra / 100 + dayOfYear
  era * 146097 + dayOfEra - 719468

/-- The date that is so many days after the beginning of 1970. -/
def ofDays (days : Int) : Int × Nat × Nat :=
  let z := days + 719468
  let era := z / 146097
  let dayOfEra := z - era * 146097
  let yearOfEra := (dayOfEra - dayOfEra / 1460 + dayOfEra / 36524 - dayOfEra / 146096) / 365
  let dayOfYear := dayOfEra - (365 * yearOfEra + yearOfEra / 4 - yearOfEra / 100)
  let shifted := (5 * dayOfYear + 2) / 153
  let day := dayOfYear - (153 * shifted + 2) / 5 + 1
  let month := if shifted < 10 then shifted + 3 else shifted - 9
  let year := yearOfEra + era * 400 + if month ≤ 2 then 1 else 0
  (year, month.toNat, day.toNat)

/-- The date of a moment. -/
def ofSeconds (seconds : Int) : Date :=
  let (year, month, day) := ofDays (seconds / 86400)
  let rest := (seconds % 86400).toNat
  ⟨year, month, day, rest / 3600, rest / 60 % 60, rest % 60⟩

/-- The moment of a date. -/
def seconds (date : Date) : Int :=
  daysTo date.year date.month date.day * 86400 + date.hour * 3600 + date.minute * 60 + date.second

/-- The number of days of a month. -/
def daysIn (year : Int) (month : Nat) : Nat :=
  (daysTo (if month = 12 then year + 1 else year) (month % 12 + 1) 1 - daysTo year month 1).toNat

/-- The day of the week of a moment, from Sunday on. -/
def weekday (seconds : Int) : Nat :=
  ((seconds / 86400 + 4) % 7).toNat

/-- The day of the year of a date, from 1 on. -/
def dayOfYear (date : Date) : Nat :=
  (daysTo date.year date.month date.day - daysTo date.year 1 1).toNat + 1

/-- The names of the months. -/
def months : List String :=
  ["January", "February", "March", "April", "May", "June", "July", "August", "September",
    "October", "November", "December"]

/-- The names of the days of the week. -/
def weekdays : List String :=
  ["Sunday", "Monday", "Tuesday", "Wednesday", "Thursday", "Friday", "Saturday"]

/-- The first three letters of a name. -/
def short (name : String) : String :=
  String.ofList (name.toList.take 3)

/-- The year and the week to which a date belongs, where weeks begin on Mondays and belong to the
year of their Thursday. -/
def weekOf (moment : Int) : Int × Nat :=
  let date := ofSeconds moment
  let weekdayFromMonday := (weekday moment + 6) % 7
  let thursday := ofSeconds (moment + (3 - (weekdayFromMonday : Int)) * 86400)
  let first := daysTo thursday.year 1 1
  let day := daysTo date.year date.month date.day + 3 - weekdayFromMonday
  (thursday.year, ((day - first) / 7).toNat + 1)

/-! ## Formats -/

/-- How a part of a date is laid out. -/
structure Cell where
  /-- How missing places are filled, if this is not as usual. -/
  fill : Option Char
  /-- Whether letters are large. -/
  large : Bool
  /-- Whether the case of letters changes. -/
  swapped : Bool
  /-- The least number of characters, if this is not as usual. -/
  width : Option Nat

/-- A number in a part of a date. -/
def Cell.number (place : Cell) (usual : Char) (width : Nat) (n : Int) : List Char :=
  let digits := Nat.toDigits 10 n.natAbs
  let sign := if n < 0 then ['-'] else []
  let width := place.width.getD width
  match place.fill.getD usual with
  | '-' => sign ++ digits
  | '_' => List.replicate (width - digits.length - sign.length) ' ' ++ sign ++ digits
  | _ => sign ++ List.replicate (width - digits.length - sign.length) '0' ++ digits

/-- A text in a part of a date. -/
def Cell.text (place : Cell) (content : String) : List Char :=
  let shown := if place.large then content.toList.map Char.toUpper
    else if place.swapped then
      (if content.toList.any Char.isLower && !content.toList.all (fun c => !c.isUpper) then
        content.toList.map Char.toUpper
      else if content.toList.all (fun c => !c.isUpper) then content.toList.map Char.toUpper
      else content.toList.map Char.toLower)
    else content.toList
  let filler := if place.fill == some '0' then '0' else ' '
  List.replicate (place.width.getD 0 - shown.length) filler ++ shown

mutual

/-- A moment, with the parts of a second in billionths, in a format, as far as the fuel goes. -/
def formattedUpTo (moment : Int) (billionths : Nat) : Nat → List Char → List Char
  | 0, _ => []
  | _, [] => []
  | fuel + 1, '%' :: rest =>
    let flags := rest.takeWhile ['-', '_', '0', '^', '#', ':'].contains
    let digits := (rest.drop flags.length).takeWhile Char.isDigit
    let place : Cell :=
      { fill := (flags.filter ['-', '_', '0'].contains).getLast?
        large := flags.contains '^'
        swapped := flags.contains '#'
        width := if digits.isEmpty then none else some (ofDigits 10 digits) }
    match rest.drop (flags.length + digits.length) with
    | [] => '%' :: rest
    | c :: after =>
      let (c, after) := match c, after with
        | 'E', d :: more => (d, more)
        | 'O', d :: more => (d, more)
        | _, _ => (c, after)
      part moment billionths fuel place (flags.count ':') c ++
        formattedUpTo moment billionths fuel after
  | fuel + 1, c :: rest => c :: formattedUpTo moment billionths fuel rest

/-- The part of a moment for which a letter stands, as far as the fuel goes. -/
def part (moment : Int) (billionths : Nat) : Nat → Cell → Nat → Char → List Char
  | 0, _, _, _ => []
  | fuel + 1, place, colons, c =>
    let date := ofSeconds moment
    let day := weekday moment
    let within (format : String) : List Char :=
      place.text (String.ofList (formattedUpTo moment billionths fuel format.toList))
    let hour := if date.hour % 12 = 0 then 12 else date.hour % 12
    let yearDay := dayOfYear date - 1
    match c with
    | '%' => ['%']
    | 'n' => ['\n']
    | 't' => ['\t']
    | 'Y' => place.number '0' 4 date.year
    | 'C' => place.number '0' 2 (date.year / 100)
    | 'y' => place.number '0' 2 (date.year % 100)
    | 'm' => place.number '0' 2 date.month
    | 'd' => place.number '0' 2 date.day
    | 'e' => place.number '_' 2 date.day
    | 'H' => place.number '0' 2 date.hour
    | 'k' => place.number '_' 2 date.hour
    | 'I' => place.number '0' 2 hour
    | 'l' => place.number '_' 2 hour
    | 'M' => place.number '0' 2 date.minute
    | 'S' => place.number '0' 2 date.second
    | 'j' => place.number '0' 3 (yearDay + 1)
    | 's' => place.number '0' 1 moment
    | 'N' =>
      let digits := (Nat.toDigits 10 billionths)
      let nine := List.replicate (9 - digits.length) '0' ++ digits
      if place.fill == some '-' then nine else nine.take (place.width.getD 9)
    | 'u' => place.number '0' 1 (if day = 0 then 7 else day)
    | 'w' => place.number '0' 1 day
    | 'U' => place.number '0' 2 ((yearDay + 7 - day) / 7)
    | 'W' => place.number '0' 2 ((yearDay + 7 - (day + 6) % 7) / 7)
    | 'V' => place.number '0' 2 (weekOf moment).2
    | 'G' => place.number '0' 4 (weekOf moment).1
    | 'g' => place.number '0' 2 ((weekOf moment).1 % 100)
    | 'q' => place.number '0' 1 ((date.month + 2) / 3)
    | 'b' | 'h' => place.text (short ((months[date.month - 1]?).getD ""))
    | 'B' => place.text ((months[date.month - 1]?).getD "")
    | 'a' => place.text (short ((weekdays[day]?).getD ""))
    | 'A' => place.text ((weekdays[day]?).getD "")
    | 'p' => place.text (if date.hour < 12 then "AM" else "PM")
    | 'P' => place.text (if date.hour < 12 then "am" else "pm")
    | 'T' | 'X' => within "%H:%M:%S"
    | 'R' => within "%H:%M"
    | 'D' | 'x' => within "%m/%d/%y"
    | 'F' => within "%Y-%m-%d"
    | 'r' => within "%I:%M:%S %p"
    | 'c' => within "%a %b %e %H:%M:%S %Y"
    | 'Z' => place.text "UTC"
    | 'z' => (match colons with
      | 0 => "+0000"
      | 1 => "+00:00"
      | 2 => "+00:00:00"
      | _ => "+00").toList
    | c => ['%', c]

end

/-- A moment, with the parts of a second in billionths, in a format. -/
def formatted (moment : Int) (billionths : Nat) (format : String) : String :=
  String.ofList (formattedUpTo moment billionths (format.length + 8) format.toList)

/-! ## Descriptions -/

/-- A piece of the description of a moment. -/
inductive Piece where
  /-- A date. The year may be the present one. -/
  | date (year : Option Int) (month day : Nat)
  /-- A time of day, with billionths of a second. -/
  | time (hour minute second billionths : Nat)
  /-- A moment as such. -/
  | moment (seconds : Int) (billionths : Nat)
  /-- A number of seconds east of zero longitude. -/
  | zone (offset : Int)
  /-- A number of seconds later. -/
  | later (seconds : Int)
  /-- A number of months later. -/
  | laterMonths (count : Int)
  /-- A change of direction of what has been said last. -/
  | ago
  /-- The first or a later day of the week with a number. -/
  | dayOfWeek (day : Nat)
  /-- The beginning of the day. -/
  | midnight
  /-- Nothing. -/
  | idle

/-- A number with so many digits at least and at most. -/
def number (least most : Nat) : Reader Nat := fun text =>
  let digits := (text.takeWhile Char.isDigit).take most
  if digits.length < least then none else some (ofDigits 10 digits, text.drop digits.length)

/-- Letters, all small. -/
def letters : Reader String := do
  let first ← only Char.isAlpha
  return String.ofList ((first :: (← span Char.isAlpha)).map Char.toLower)

/-- The number of a month. -/
def monthNumber? (name : String) : Option Nat :=
  if name.length < 3 then none
  else (months.findIdx? fun month => (month.map Char.toLower).startsWith name).map (· + 1)

/-- The number of a day of the week. -/
def weekdayNumber? (name : String) : Option Nat :=
  if name.length < 3 then none
  else weekdays.findIdx? fun day => (day.map Char.toLower).startsWith name

/-- The seconds in a unit of time, or its months. -/
def unit? (name : String) : Option (Int × Int) :=
  let plain := if name.endsWith "s" && 3 < name.length then String.ofList name.toList.dropLast
    else name
  match plain with
  | "sec" | "second" => some (1, 0)
  | "min" | "minute" => some (60, 0)
  | "hour" => some (3600, 0)
  | "day" => some (86400, 0)
  | "week" => some (604800, 0)
  | "fortnight" => some (1209600, 0)
  | "month" => some (0, 1)
  | "year" => some (0, 12)
  | _ => none

/-- Some units of time later. -/
def unitsLater (count : Int) (name : String) : Option Piece :=
  (unit? name).map fun (seconds, months) =>
    if months = 0 then .later (count * seconds) else .laterMonths (count * months)

/-- A time of day with minutes. -/
def clockPiece : Reader Piece := do
  let hour ← number 1 2
  symbol [':']
  let minute ← number 2 2
  let second ← (do symbol [':']; number 2 2) <|> pure 0
  let fraction ← (do symbol ['.']; span Char.isDigit) <|> pure []
  let nine := (fraction ++ List.replicate 9 '0').take 9
  let _ ← span (· == ' ')
  let half ← optional (symbol ['p', 'm'] <|> symbol ['P', 'M'])
  let other ← optional (symbol ['a', 'm'] <|> symbol ['A', 'M'])
  let hour := if half.isSome then hour % 12 + 12 else if other.isSome then hour % 12 else hour
  require (hour < 24 && minute < 60 && second ≤ 60)
  return .time hour minute second (ofDigits 10 nine)

/-- A time of day. -/
def timePiece : Reader Piece :=
  clockPiece <|>
  (do
    let hour ← number 1 2
    let _ ← span (· == ' ')
    let isLate ← (do symbol ['p', 'm'] <|> symbol ['P', 'M']; return true) <|>
      (do symbol ['a', 'm'] <|> symbol ['A', 'M']; return false)
    require (1 ≤ hour && hour ≤ 12)
    return .time (hour % 12 + if isLate then 12 else 0) 0 0 0)

/-- A year after a date, if there is one. -/
def yearAfter : Reader (Option Int) :=
  (do
    let _ ← span fun c => c == ' ' || c == '-' || c == ','
    let year ← number 4 4
    notBefore fun c => c == ':' || c.isDigit
    return some (year : Int)) <|> pure none

/-- A date in digits. -/
def datePiece : Reader Piece := do
  (do
    let year ← number 4 4
    symbol ['-']
    let month ← number 1 2
    symbol ['-']
    let day ← number 1 2
    require (1 ≤ month && month ≤ 12 && 1 ≤ day && day ≤ 31)
    return .date (some year) month day) <|>
  (do
    let month ← number 1 2
    symbol ['/']
    let day ← number 1 2
    symbol ['/']
    let year ← number 2 4
    let year := if year < 69 then year + 2000 else if year < 100 then year + 1900 else year
    require (1 ≤ month && month ≤ 12 && 1 ≤ day && day ≤ 31)
    return .date (some year) month day) <|>
  (do
    let day ← number 1 2
    let _ ← span fun c => c == ' ' || c == '-'
    let name ← letters
    let month ← fun text => (monthNumber? name).map (·, text)
    let year ← yearAfter
    return .date year month day) <|>
  (do
    let name ← letters
    let month ← fun text => (monthNumber? name).map (·, text)
    let _ ← span (· == ' ')
    let day ← number 1 2
    let year ← yearAfter
    return .date year month day) <|>
  (do
    let year ← number 4 4
    let month ← number 2 2
    let day ← number 2 2
    notBefore Char.isDigit
    require (1 ≤ month && month ≤ 12 && 1 ≤ day && day ≤ 31)
    return .date (some year) month day)

/-- A piece of a description. -/
def piece : Reader Piece := do
  (do
    symbol ['@']
    let sign ← optional (symbol ['-'])
    let n ← number 1 18
    let fraction ← (do symbol ['.']; span Char.isDigit) <|> pure []
    let nine := (fraction ++ List.replicate 9 '0').take 9
    return .moment (if sign.isSome then -(n : Int) else n) (ofDigits 10 nine)) <|>
  datePiece <|> timePiece <|>
  (do
    let sign ← only fun c => c == '+' || c == '-'
    let hour ← number 2 2
    let _ ← optional (symbol [':'])
    let minute ← number 2 2
    notBefore fun c => c.isDigit || c == ' '
    let offset : Int := hour * 3600 + minute * 60
    return .zone (if sign == '-' then -offset else offset)) <|>
  (do
    let sign ← optional (only fun c => c == '+' || c == '-')
    let _ ← span (· == ' ')
    let n ← number 1 9
    let _ ← span (· == ' ')
    let name ← letters
    let count : Int := if sign == some '-' then -n else n
    fun text => (unitsLater count name).map (·, text)) <|>
  (do
    let name ← letters
    match name with
    | "now" | "utc" | "gmt" | "z" => return if name = "now" then .idle else .zone 0
    | "today" => return .idle
    | "t" => return .idle
    | "yesterday" => return .later (-86400)
    | "tomorrow" => return .later 86400
    | "midnight" => return .midnight
    | "noon" => return .time 12 0 0 0
    | "ago" => return .ago
    | "next" | "last" =>
      let _ ← span (· == ' ')
      let name' ← letters
      fun text => (unitsLater (if name = "next" then 1 else -1) name').map (·, text)
    | _ => fun text =>
      match weekdayNumber? name, unitsLater 1 name with
      | some day, _ => some (.dayOfWeek day, text)
      | none, found => found.map (·, text))

/-- The pieces of a description. -/
def pieces : Reader (List Piece) := do
  let _ ← span fun c => c == ' ' || c == ','
  let found ← many do
    let next ← piece
    let _ ← span fun c => c == ' ' || c == ',' || c == 'T'
    return next
  done
  return found

/-- A date some months later. -/
def monthsLater (date : Date) (count : Int) : Date :=
  let total := date.year * 12 + (date.month - 1 : Nat) + count
  { date with year := total / 12, month := (total % 12).toNat + 1 }

/-- The moment that a text describes, with billionths of a second, given the present moment. -/
def ofText? (now : Int) (billionths : Nat) (text : String) : Option (Int × Nat) :=
  (pieces.run text.toList).bind fun found =>
    let date := ofSeconds now
    let isReal := found.all fun
      | .date year month day => decide (day ≤ daysIn (year.getD date.year) month)
      | _ => true
    if !isReal then none
    else some <|
    let hasDate := found.any fun | .date _ _ _ => true | .dayOfWeek _ => true | _ => false
    let hasTime := found.any fun | .time _ _ _ _ => true | .midnight => true | _ => false
    let start : Date × Nat := if hasDate && !hasTime then
        ({ date with hour := 0, minute := 0, second := 0 }, 0)
      else (date, if text.trimAscii.isEmpty then 0 else billionths)
    let start := if text.trimAscii.isEmpty then
        ({ date with hour := 0, minute := 0, second := 0 }, 0) else start
    let (date, parts) := found.foldl
      (fun (date, parts) piece =>
        match piece with
        | .date year month day =>
          ({ date with year := year.getD date.year, month := month, day := day }, parts)
        | .time hour minute second rest =>
          ({ date with hour := hour, minute := minute, second := second }, rest)
        | .midnight => ({ date with hour := 0, minute := 0, second := 0 }, 0)
        | _ => (date, parts))
      start
    let isAgo := found.any fun | .ago => true | _ => false
    let direction : Int := if isAgo then -1 else 1
    let months := found.foldl
      (fun n piece => match piece with | .laterMonths count => n + direction * count | _ => n) 0
    let later := found.foldl
      (fun n piece => match piece with
        | .later count => n + direction * count
        | .zone offset => n - offset
        | _ => n) 0
    let base := seconds (monthsLater date months)
    let toDay := found.foldl
      (fun n piece => match piece with
        | .dayOfWeek day => (((day : Int) - weekday base) % 7) * 86400
        | _ => n) 0
    match found.findSome? fun | .moment n rest => some (n, rest) | _ => none with
    | some (n, rest) => (n + later, rest)
    | none => (base + toDay + later, parts)

end Compositor.Script.Calendar
