import ClusterDashboard.Text.Basic
/-!
Points in time, in whole seconds since the start of 1970, and their written form with a date, a
time of day and an offset.
-/
namespace ClusterDashboard

abbrev Instant := Int

namespace Instant

/-- Days from 1970-01-01 on, in the calendar that repeats every 400 years. -/
def daysOfDate (year : Int) (month day : Nat) : Int :=
  let y := if month ≤ 2 then year - 1 else year
  let era := y.fdiv 400
  let yearOfEra := (y - era * 400).toNat
  let dayOfYear := (153 * ((month + 9) % 12) + 2) / 5 + (day - 1)
  let dayOfEra := yearOfEra * 365 + yearOfEra / 4 - yearOfEra / 100 + dayOfYear
  era * 146097 + dayOfEra - 719468

def dateOfDays (days : Int) : Int × Nat × Nat :=
  let z := days + 719468
  let era := z.fdiv 146097
  let dayOfEra := (z - era * 146097).toNat
  let yearOfEra :=
    (dayOfEra - dayOfEra / 1460 + dayOfEra / 36524 - dayOfEra / 146096) / 365
  let dayOfYear := dayOfEra - (365 * yearOfEra + yearOfEra / 4 - yearOfEra / 100)
  let shifted := (5 * dayOfYear + 2) / 153
  let month := if shifted < 10 then shifted + 3 else shifted - 9
  let year := era * 400 + yearOfEra + (if month ≤ 2 then 1 else 0)
  (year, month, dayOfYear - (153 * shifted + 2) / 5 + 1)

def isLeap (year : Int) : Bool := year % 4 == 0 && (year % 100 != 0 || year % 400 == 0)

def daysInMonth (year : Int) (month : Nat) : Nat :=
  if month = 2 then if isLeap year then 29 else 28
  else if month ∈ [4, 6, 9, 11] then 30
  else 31

def padded (width n : Nat) : String :=
  let digits := toString n
  String.ofList (List.replicate (width - digits.length) '0') ++ digits

/-- The written form at offset zero. -/
def text (t : Instant) : String :=
  let (year, month, day) := dateOfDays (t.fdiv 86400)
  let second := (t.fmod 86400).toNat
  padded 4 year.toNat ++ "-" ++ padded 2 month ++ "-" ++ padded 2 day ++ "T" ++
    padded 2 (second / 3600) ++ ":" ++ padded 2 (second / 60 % 60) ++ ":" ++
    padded 2 (second % 60) ++ "Z"

def number? (digits : List Char) : Option Nat :=
  if digits.all Char.isDigit then
    some (digits.foldl (fun n c => 10 * n + (c.toNat - '0'.toNat)) 0)
  else none

/-- A number of exactly so many digits. -/
def take? (count : Nat) (s : List Char) : Option (Nat × List Char) :=
  let digits := s.take count
  if digits.length < count then none else (number? digits).map (·, s.drop count)

/-- The separator is written between all parts or between none. -/
def skip? (separator : Char) (written : Bool) (s : List Char) : Option (List Char) :=
  if !written then some s
  else match s with
    | c :: rest => if c = separator then some rest else none
    | [] => none

def startsWith (separator : Char) (s : List Char) : Bool := s.head? == some separator

/-- A year of four digits, or a sign and six. -/
def readYear (s : List Char) : Option (Int × List Char) :=
  match s with
  | '+' :: rest => (take? 6 rest).map fun (n, rest) => (n, rest)
  | '-' :: rest => (take? 6 rest).bind fun (n, rest) => if n = 0 then none else some (-n, rest)
  | _ => (take? 4 s).map fun (n, rest) => (n, rest)

def readDate (s : List Char) : Option (Int × List Char) := do
  let (year, s) ← readYear s
  let dashes := startsWith '-' s
  let s ← skip? '-' dashes s
  let (month, s) ← take? 2 s
  let s ← skip? '-' dashes s
  let (day, s) ← take? 2 s
  if month < 1 || 12 < month || day < 1 || daysInMonth year month < day then none
  return (daysOfDate year month day, s)

/-- Parts of a second are read and dropped. -/
def readFraction (s : List Char) : Option (List Char) :=
  match s with
  | c :: rest =>
    if c == '.' || c == ',' then
      let digits := rest.takeWhile Char.isDigit
      if digits.isEmpty || 9 < digits.length then none else some (rest.drop digits.length)
    else some s
  | [] => some s

def startsWithDigit (s : List Char) : Bool := (s.head?.map Char.isDigit).getD false

/-- Minutes and seconds may be left out; a leap second counts as the one before it. -/
def readTime (s : List Char) : Option (Nat × List Char) := do
  let (hour, s) ← take? 2 s
  if 23 < hour then none
  let colons := startsWith ':' s
  if !colons && !startsWithDigit s then return (hour * 3600, s)
  let s ← skip? ':' colons s
  let (minute, s) ← take? 2 s
  if 59 < minute then none
  let more := if colons then startsWith ':' s else startsWithDigit s
  if !more then return (hour * 3600 + minute * 60, s)
  let s ← skip? ':' colons s
  let (second, s) ← take? 2 s
  if 60 < second then none
  let s ← readFraction s
  return (hour * 3600 + minute * 60 + min second 59, s)

/-- The offset in seconds, up to the end of the text. -/
def readOffset (s : List Char) : Option Int :=
  match s with
  | ['Z'] | ['z'] => some 0
  | '+' :: rest => magnitude rest
  | '-' :: rest => (magnitude rest).map fun n => -n
  | _ => none
where
  magnitude (s : List Char) : Option Int := do
    let (seconds, rest) ← readTime s
    if rest.isEmpty && seconds < 26 * 3600 then return (seconds : Int) else none

def ofChars? (s : List Char) : Option Instant := do
  let (days, s) ← readDate s
  let c :: s := s | none
  if !(c == 'T' || c == 't' || c == ' ') then none
  let (second, s) ← readTime s
  let offset ← readOffset s
  return days * 86400 + second - offset

def ofText? (text : String) : Option Instant := ofChars? text.toList

end Instant
end ClusterDashboard
