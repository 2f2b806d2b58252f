import GossipCluster.Document.Basic
import GossipCluster.Text.Decimal
import GossipCluster.Toml.Text

namespace GossipCluster.Toml

open Text (Parser)

def digitsWith (isDigit : Char → Bool) : Parser (List Char) := do
  let first ← Parser.satisfy isDigit
  let rest ← Parser.many (Parser.satisfy isDigit <|> (Parser.char '_' *> Parser.satisfy isDigit))
  return first :: rest

def value (base : Nat) (digits : List Char) : Nat :=
  digits.foldl (fun n c => n * base + (Text.Hex.digit? c).getD 0) 0

def sign : Parser Bool := do
  match ← Parser.optional (Parser.satisfy fun c => c = '+' || c = '-') with
  | some '-' => return true
  | _ => return false

-- A number in decimal digits does not begin with a zero.
def wholeDigits : Parser (List Char) := do
  match ← Parser.peek? with
  | some '0' => do Parser.char '0'; return ['0']
  | _ => digitsWith (·.isDigit)

-- Integers have 64 bits.
def integerOf (n : Int) : Parser Document :=
  if n < Int64.minValue.toInt ∨ n > Int64.maxValue.toInt then failure else return .integer n

def radix (mark : String) (base : Nat) : Parser Document := do
  Parser.word mark
  let digits ← digitsWith fun c => (Text.Hex.digit? c).any (· < base)
  integerOf (value base digits)

def integer : Parser Document :=
  radix "0x" 16 <|> radix "0o" 8 <|> radix "0b" 2 <|> do
    let negative ← sign
    let n := value 10 (← wholeDigits)
    integerOf (if negative then -n else n)

def exponent : Parser Int := do
  discard <| Parser.satisfy fun c => c = 'e' || c = 'E'
  let negative ← sign
  let n := value 10 (← digitsWith (·.isDigit))
  return if negative then -n else n

def fraction : Parser (List Char) := Parser.char '.' *> digitsWith (·.isDigit)

def signed (negative : Bool) (x : Float) : Float := if negative then -x else x

-- The float nearest to `n · 10 ^ e`.
def scientific (n : Nat) (e : Int) : Float :=
  if e < 0 then Float.ofScientific n true (-e).toNat else Float.ofScientific n false e.toNat

-- Beyond these exponents a number of so many digits is infinite or zero.
def decimal (digits : List Char) (e : Int) : Float :=
  let n := value 10 digits
  if n = 0 then 0
  else if e > 400 then 1 / 0
  else if e + digits.length < -400 then 0
  else scientific n e

-- A positive number must not be too large; a negative one may become infinite.
def number : Parser Document := do
  let negative ← sign
  let whole ← wholeDigits
  let fraction ← Parser.optional fraction
  let exponent ← Parser.optional exponent
  if fraction.isNone && exponent.isNone then failure
  let places := fraction.getD []
  let x := decimal (whole ++ places) (exponent.getD 0 - places.length)
  if x.isInf && !negative then failure else return .float (signed negative x)

def special : Parser Document := do
  let negative ← sign
  let x : Float ← (do Parser.word "inf"; pure (1 / 0)) <|> (do Parser.word "nan"; pure (0 / 0))
  return .float (signed negative x)

def bool : Parser Document :=
  (do Parser.word "true"; return .bool true) <|> (do Parser.word "false"; return .bool false)

-- Exactly `width` digits, with a value between two bounds.
def field (width low high : Nat) : Parser Nat := do
  let digits ← (List.range width).mapM fun _ => Parser.satisfy (·.isDigit)
  let n := value 10 digits
  if low ≤ n ∧ n ≤ high then return n else failure

def daysInMonth (year month : Nat) : Nat :=
  if month = 2 then
    if year % 4 = 0 ∧ (year % 100 ≠ 0 ∨ year % 400 = 0) then 29 else 28
  else if month ∈ [4, 6, 9, 11] then 30 else 31

def date : Parser String := do
  let year ← field 4 0 9999
  Parser.char '-'
  let month ← field 2 1 12
  Parser.char '-'
  let day ← field 2 1 (daysInMonth year month)
  return Text.padded 4 year ++ "-" ++ Text.padded 2 month ++ "-" ++ Text.padded 2 day

-- Places behind the ninth are cut off.
def subsecond : Parser String := do
  Parser.char '.'
  let digits ← Parser.takeWhile₁ (·.isDigit)
  let places := ((digits.take 9).reverse.dropWhile (· == '0')).reverse
  return if places.isEmpty then "" else "." ++ .ofList places

def time : Parser String := do
  let hour ← field 2 0 23
  Parser.char ':'
  let minute ← field 2 0 59
  Parser.char ':'
  let second ← field 2 0 60
  let rest ← Parser.optional subsecond
  return Text.padded 2 hour ++ ":" ++ Text.padded 2 minute ++ ":" ++ Text.padded 2 second ++
    rest.getD ""

-- A zone that is not ahead or behind has no sign of its own.
def zone : Parser String :=
  (do discard <| Parser.satisfy fun c => c = 'Z' || c = 'z'; return "Z") <|> do
    let negative ← Parser.satisfy fun c => c = '+' || c = '-'
    let hour ← field 2 0 23
    Parser.char ':'
    let minute ← field 2 0 59
    let sign := if negative = '-' ∧ (hour, minute) ≠ (0, 0) then "-" else "+"
    return sign ++ Text.padded 2 hour ++ ":" ++ Text.padded 2 minute

def dateTime : Parser String := do
  let date ← date
  let time ← Parser.optional do
    discard <| Parser.satisfy fun c => c = 'T' || c = 't' || c = ' '
    return "T" ++ (← time) ++ (← Parser.optional zone).getD ""
  return date ++ time.getD ""

-- To readers of documents a date or time is a table with this single field.
def timeField : String := "$__toml_private_datetime"

def moment : Parser Document := do
  return .table [(timeField, .string (← dateTime <|> time))]

def scalar : Parser Document :=
  (return .string (← string)) <|> bool <|> moment <|> special <|> number <|> integer

end GossipCluster.Toml
