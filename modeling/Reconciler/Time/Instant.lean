import Reconciler.Text.Digits
import Reconciler.Time.Calendar

/-!
# Instants and their text

An instant is read from RFC 3339 text with some latitude (blanks around the separators, one-digit
fields, any offset) and written in UTC with as many fractional digits, out of 0, 3, 6 and 9, as lose
nothing.
-/

namespace Reconciler.Time

/-- A moment, in seconds since 1970-01-01T00:00:00Z and nanoseconds.  During a leap second the
nanoseconds run from one thousand million to two thousand million. -/
structure Instant where
  seconds : Int
  nanos : Nat
deriving DecidableEq, Inhabited

namespace Instant

/-- White space of the Unicode character database. -/
def isSpace (c : Char) : Bool :=
  let code := c.toNat
  (0x9 ≤ code && code ≤ 0xd) || code == 0x20 || code == 0x85 || code == 0xa0 || code == 0x1680 ||
    (0x2000 ≤ code && code ≤ 0x200a) || code == 0x2028 || code == 0x2029 || code == 0x202f ||
    code == 0x205f || code == 0x3000

/-- Reads text from the front. -/
abbrev Scanner (α : Type) := StateT (List Char) Option α

def spaces : Scanner Unit := modify (·.dropWhile isSpace)

/-- Drops one expected character. -/
def literal (accepts : Char → Bool) : Scanner Unit := fun input =>
  match input with
  | c :: rest => if accepts c then some ((), rest) else none
  | [] => none

/-- A run of at least one and at most `most` digits. -/
def digits (most : Nat) : Scanner (List Char) := fun input =>
  match (input.take most).takeWhile Char.isDigit with
  | [] => none
  | read => some (read, input.drop read.length)

/-- A field of one or two digits, after any blanks. -/
def field : Scanner Nat := do
  spaces
  return Text.digitsValue (← digits 2)

/-- A year of up to four digits, or of any number of digits after a sign. -/
def year : Scanner Int := do
  spaces
  match ← get with
  | '-' :: rest => set rest; return -(Text.digitsValue (← digits rest.length) : Int)
  | '+' :: rest => set rest; return Text.digitsValue (← digits rest.length)
  | _ => return Text.digitsValue (← digits 4)

/-- The nanoseconds of an optional fraction; digits after the ninth are dropped. -/
def fraction : Scanner Nat := do
  match ← get with
  | '.' :: rest =>
    set rest
    let read ← digits 9
    modify (·.dropWhile Char.isDigit)
    return Text.digitsValue read * Nat.pow 10 (9 - read.length)
  | _ => return 0

/-- Exactly two digits. -/
def twoDigits : Scanner Nat := do
  let read ← digits 2
  if read.length = 2 then return Text.digitsValue read else failure

/-- The offset from UTC in seconds. -/
def offset : Scanner Int := do
  match ← get with
  | 'Z' :: rest => set rest; return 0
  | 'z' :: rest => set rest; return 0
  | sign :: rest =>
    let upper := String.ofList ((sign :: rest).take 3) |>.toUpper
    if upper = "UTC" then
      set (rest.drop 2)
      return 0
    let negative ←
      if sign = '+' then pure false
      else if sign = '-' ∨ sign.toNat = 0x2212 then pure true
      else failure
    set rest
    let hours ← twoDigits
    modify (·.dropWhile fun c => c == ':' || isSpace c)
    let minutes ← twoDigits
    if minutes > 59 ∨ hours > 23 then failure
    let seconds : Int := hours * 3600 + minutes * 60
    return if negative then -seconds else seconds
  | [] => failure

/-- A local date and time with its offset. -/
def timestamp : Scanner Instant := do
  let year ← year
  spaces
  literal (· == '-')
  let month ← field
  spaces
  literal (· == '-')
  let day ← field
  literal fun c => c == 'T' || c == 't' || c == ' '
  let hour ← field
  spaces
  literal (· == ':')
  let minute ← field
  spaces
  literal (· == ':')
  let second ← field
  let nanos ← fraction
  spaces
  let offset ← offset
  spaces
  let date : Date := ⟨year, month, day⟩
  if !date.valid || !date.inRange || hour > 23 || minute > 59 || second > 60 then failure
  let leap := second == 60
  let second : Int := if leap then 59 else second
  let total := date.toDays * 86400 + hour * 3600 + minute * 60 + second - offset
  if !(Date.ofDays (total / 86400)).inRange then failure
  return ⟨total, if leap then nanos + 1000000000 else nanos⟩

/-- Reads an instant; nothing but blanks may follow it. -/
def ofString? (text : String) : Option Instant :=
  match timestamp.run text.toList with
  | some (instant, []) => some instant
  | _ => none

/-- Decimal digits, with zeros in front up to a width. -/
def padded (width value : Nat) : List Char :=
  let read := Nat.toDigits 10 value
  List.replicate (width - read.length) '0' ++ read

/-- A year: four digits, with a sign and at least four digits outside 0 to 9999. -/
def yearText (year : Int) : List Char :=
  if 0 ≤ year ∧ year ≤ 9999 then padded 4 year.toNat
  else (if year < 0 then '-' else '+') :: padded 4 year.natAbs

/-- The fraction with the fewest of 0, 3, 6 and 9 digits that lose nothing. -/
def fractionText (nanos : Nat) : List Char :=
  if nanos = 0 then []
  else if nanos % 1000000 = 0 then '.' :: padded 3 (nanos / 1000000)
  else if nanos % 1000 = 0 then '.' :: padded 6 (nanos / 1000)
  else '.' :: padded 9 nanos

/-- The text of an instant in UTC. -/
def toString (instant : Instant) : String :=
  let date := Date.ofDays (instant.seconds / 86400)
  let second := (instant.seconds % 86400).toNat
  let leap := instant.nanos ≥ 1000000000
  let nanos := if leap then instant.nanos - 1000000000 else instant.nanos
  String.ofList <|
    yearText date.year ++ ['-'] ++ padded 2 date.month ++ ['-'] ++ padded 2 date.day ++ ['T'] ++
      padded 2 (second / 3600) ++ [':'] ++ padded 2 (second / 60 % 60) ++ [':'] ++
      padded 2 (second % 60 + if leap then 1 else 0) ++ fractionText nanos ++ ['Z']

/-- The text of an instant in UTC with whole seconds. -/
def toStringSeconds (instant : Instant) : String :=
  toString ⟨instant.seconds, if instant.nanos ≥ 1000000000 then 1000000000 else 0⟩

end Instant

end Reconciler.Time
