import ClusterDashboard.Json.Value
import ClusterDashboard.Yaml.Scalar
/-!
Reading JSON text. The whole text has to be one value, with white space around it.
-/
namespace ClusterDashboard.JsonValue

def isGap (c : Char) : Bool := c == ' ' || c == '\n' || c == '\t' || c == '\r'

def skipGap (s : List Char) : List Char := s.dropWhile isGap

/-- Digits, at least one; what follows them. -/
def readDigits (s : List Char) : Option (List Char × List Char) :=
  let digits := s.takeWhile Char.isDigit
  if digits.isEmpty then none else some (digits, s.drop digits.length)

/-- The digits behind the point; none if there is no point. -/
def readFraction (s : List Char) : Option (List Char × List Char) :=
  match s with
  | '.' :: rest => (readDigits rest).map fun (digits, rest) => ('.' :: digits, rest)
  | _ => some ([], s)

def readExponent (s : List Char) : Option (List Char × List Char) :=
  match s with
  | e :: rest =>
    if e == 'e' || e == 'E' then
      let (sign, rest) := match rest with
        | c :: more => if c == '+' || c == '-' then ([c], more) else ([], rest)
        | [] => ([], [])
      (readDigits rest).map fun (digits, rest) => (e :: (sign ++ digits), rest)
    else some ([], s)
  | [] => some ([], s)

def ofDigits (digits : List Char) : Nat :=
  digits.foldl (fun n c => 10 * n + (c.toNat - '0'.toNat)) 0

/-- A whole number keeps its value if 64 bits can hold it; zero has no sign. -/
def whole? (negative : Bool) (n : Nat) : Option Int :=
  if negative then if n = 0 ∨ Nat.pow 2 63 < n then none else some (-n)
  else if n < Nat.pow 2 64 then some n else none

/-- No zero stands in front of other digits. -/
def readNumber (s : List Char) : Option (JsonValue × List Char) := do
  let (negative, body) := match s with
    | '-' :: rest => (true, rest)
    | _ => (false, s)
  let (digits, rest) ← readDigits body
  if digits.length > 1 && digits.head? == some '0' then none
  let (fraction, rest) ← readFraction rest
  let (exponent, rest) ← readExponent rest
  let literal := (if negative then ['-'] else []) ++ digits ++ fraction ++ exponent
  if fraction.isEmpty && exponent.isEmpty then
    match whole? negative (ofDigits digits) with
    | some n => return (.integer n, rest)
    | none => return (.decimal (String.ofList literal), rest)
  else return (.decimal (String.ofList literal), rest)

def readHex (s : List Char) : Option (Nat × List Char) :=
  match s with
  | a :: b :: c :: d :: rest => (Yaml.hexNumber? [a, b, c, d]).map (·, rest)
  | _ => none

/-- Behind `\u`: four digits, or eight in two parts for a character beyond 16 bits. -/
def readUnicode (s : List Char) : Option (Char × List Char) := do
  let (first, rest) ← readHex s
  if 0xD800 ≤ first ∧ first < 0xDC00 then
    match rest with
    | '\\' :: 'u' :: rest =>
      let (second, rest) ← readHex rest
      if second < 0xDC00 ∨ 0xE000 ≤ second then none
      let c ← Yaml.charOfNat? (0x10000 + (first - 0xD800) * 0x400 + (second - 0xDC00))
      return (c, rest)
    | _ => none
  else return (← Yaml.charOfNat? first, rest)

def readEscape (s : List Char) : Option (Char × List Char) :=
  match s with
  | '"' :: rest => some ('"', rest)
  | '\\' :: rest => some ('\\', rest)
  | '/' :: rest => some ('/', rest)
  | 'b' :: rest => some ('\x08', rest)
  | 'f' :: rest => some ('\x0c', rest)
  | 'n' :: rest => some ('\n', rest)
  | 'r' :: rest => some ('\r', rest)
  | 't' :: rest => some ('\t', rest)
  | 'u' :: rest => readUnicode rest
  | _ => none

/-- Reads from behind the opening quote; `done` holds what was read, last character first. -/
def readText : Nat → List Char → List Char → Option (String × List Char)
  | 0, _, _ => none
  | fuel + 1, done, s =>
    match s with
    | [] => none
    | '"' :: rest => some (String.ofList done.reverse, rest)
    | '\\' :: rest => do
      let (c, rest) ← readEscape rest
      readText fuel (c :: done) rest
    | c :: rest => if c.toNat < 0x20 then none else readText fuel (c :: done) rest

mutual

def readValue : Nat → List Char → Option (JsonValue × List Char)
  | 0, _ => none
  | fuel + 1, s =>
    match skipGap s with
    | '{' :: rest =>
      match skipGap rest with
      | '}' :: rest => some (.object [], rest)
      | rest => readFields fuel [] rest
    | '[' :: rest =>
      match skipGap rest with
      | ']' :: rest => some (.list [], rest)
      | rest => readItems fuel [] rest
    | '"' :: rest => (readText fuel [] rest).map fun (s, rest) => (.text s, rest)
    | 'n' :: 'u' :: 'l' :: 'l' :: rest => some (.null, rest)
    | 't' :: 'r' :: 'u' :: 'e' :: rest => some (.bool true, rest)
    | 'f' :: 'a' :: 'l' :: 's' :: 'e' :: rest => some (.bool false, rest)
    | s => readNumber s

/-- The items of a list with at least one. -/
def readItems : Nat → List JsonValue → List Char → Option (JsonValue × List Char)
  | 0, _, _ => none
  | fuel + 1, done, s => do
    let (item, rest) ← readValue fuel s
    match skipGap rest with
    | ',' :: rest => readItems fuel (item :: done) rest
    | ']' :: rest => return (.list (item :: done).reverse, rest)
    | _ => none

/-- The fields of an object with at least one. -/
def readFields : Nat → List (String × JsonValue) → List Char → Option (JsonValue × List Char)
  | 0, _, _ => none
  | fuel + 1, done, s => do
    let '"' :: rest := skipGap s | none
    let (name, rest) ← readText fuel [] rest
    let ':' :: rest := skipGap rest | none
    let (value, rest) ← readValue fuel rest
    match skipGap rest with
    | ',' :: rest => readFields fuel ((name, value) :: done) rest
    | '}' :: rest => return (.object ((name, value) :: done).reverse, rest)
    | _ => none

end

def ofChars? (s : List Char) : Option JsonValue := do
  let (value, rest) ← readValue (s.length + 1) s
  if (skipGap rest).isEmpty then return value else none

def ofText? (text : String) : Option JsonValue := ofChars? text.toList

end ClusterDashboard.JsonValue
