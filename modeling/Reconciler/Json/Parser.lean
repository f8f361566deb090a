import Reconciler.Json.Basic
import Reconciler.Text.Digits

/-!
# Reading JSON text

The grammar is RFC 8259.  An integer literal outside `[-2^63, 2^64)` counts as a decimal.  The
grammar lets escapes name half a surrogate pair; what holds such a string is kept as ill-formed.
-/

namespace Reconciler.Json

/-- What a step of the reader leaves: a result and the characters after it. -/
abbrev Step (α : Type) := List Char → Option (α × List Char)

/-- Drops blanks. -/
def skipBlanks (input : List Char) : List Char :=
  input.dropWhile fun c => c == ' ' || c == '\n' || c == '\t' || c == '\r'

/-- The value of a hexadecimal digit. -/
def hexDigit? (c : Char) : Option Nat :=
  if '0' ≤ c ∧ c ≤ '9' then some (c.toNat - '0'.toNat)
  else if 'a' ≤ c ∧ c ≤ 'f' then some (c.toNat - 'a'.toNat + 10)
  else if 'A' ≤ c ∧ c ≤ 'F' then some (c.toNat - 'A'.toNat + 10)
  else none

/-- Where the scanner of a string stands. -/
inductive StringState where
  | plain
  | escape
  | digits (left value : Nat)

/-- What was read of a string: its characters, the latest first, as long as it is well-formed, and a
leading surrogate that waits for its partner. -/
structure Gathered where
  characters : Option (List Char) := some []
  high : Option Nat := none

namespace Gathered

/-- Takes a character in.  A waiting surrogate is left alone. -/
def push (c : Char) (gathered : Gathered) : Gathered :=
  match gathered.high with
  | none => ⟨gathered.characters.map (c :: ·), none⟩
  | some _ => ⟨none, none⟩

/-- Takes a unit of an escape in. -/
def pushUnit (value : Nat) (gathered : Gathered) : Gathered :=
  let leading := 0xd800 ≤ value && value < 0xdc00
  let trailing := 0xdc00 ≤ value && value < 0xe000
  match gathered.high with
  | none =>
    if leading then { gathered with high := some value }
    else if trailing then ⟨none, none⟩
    else gathered.push (Char.ofNat value)
  | some high =>
    if trailing then
      let c := Char.ofNat (0x10000 + (high - 0xd800) * 0x400 + (value - 0xdc00))
      ⟨gathered.characters.map (c :: ·), none⟩
    else ⟨none, none⟩

/-- The string, if it is well-formed. -/
def string? (gathered : Gathered) : Option String :=
  match gathered.high with
  | none => gathered.characters.map fun characters => String.ofList characters.reverse
  | some _ => none

end Gathered

/-- The character of a one-letter escape. -/
def escaped? : Char → Option Char
  | '"' => some '"'
  | '\\' => some '\\'
  | '/' => some '/'
  | 'b' => some '\x08'
  | 'f' => some '\x0c'
  | 'n' => some '\n'
  | 'r' => some '\r'
  | 't' => some '\t'
  | _ => none

/-- Reads the rest of a string after its opening quote, one character at a time.  A string that is
not well-formed is read as nothing. -/
def scanString : StringState → Gathered → Step (Option String)
  | _, _, [] => none
  | .plain, read, c :: rest =>
    if c == '"' then some (read.string?, rest)
    else if c == '\\' then scanString .escape read rest
    else if c.toNat < 0x20 then none
    else scanString .plain (read.push c) rest
  | .escape, read, c :: rest =>
    if c == 'u' then scanString (.digits 4 0) read rest
    else
      match escaped? c with
      | some e => scanString .plain (read.push e) rest
      | none => none
  | .digits left value, read, c :: rest =>
    match hexDigit? c with
    | none => none
    | some digit =>
      let value := value * 16 + digit
      if left > 1 then scanString (.digits (left - 1) value) read rest
      else scanString .plain (read.pushUnit value) rest

/-- A run of decimal digits and what follows it. -/
def spanDigits (input : List Char) : List Char × List Char :=
  (input.takeWhile Char.isDigit, input.dropWhile Char.isDigit)

/-- The fraction of a number, without its point. -/
def fraction? : Step (Option (List Char))
  | '.' :: rest =>
    match spanDigits rest with
    | ([], _) => none
    | (digits, rest) => some (some digits, rest)
  | rest => some (none, rest)

/-- The exponent of a number. -/
def exponent? : Step (Option Int)
  | c :: rest =>
    if c == 'e' || c == 'E' then
      let (negative, rest) :=
        match rest with
        | '+' :: rest => (false, rest)
        | '-' :: rest => (true, rest)
        | rest => (false, rest)
      match spanDigits rest with
      | ([], _) => none
      | (digits, rest) =>
        let value : Int := Text.digitsValue digits
        some (some (if negative then -value else value), rest)
    else some (none, c :: rest)
  | [] => some (none, [])

/-- The document of a number from its parts. -/
def number (negative : Bool) (whole : List Char) : Option (List Char) → Option Int → Json
  | none, none =>
    let value := Text.digitsValue whole
    if negative then
      if 0 < value ∧ value ≤ Nat.pow 2 63 then .integer (-(value : Int))
      else .decimal true value 0
    else if value < Nat.pow 2 64 then .integer value
    else .decimal false value 0
  | part, power =>
    let places := part.getD []
    .decimal negative (Text.digitsValue (whole ++ places)) (power.getD 0 - places.length)

/-- Reads a number. -/
def scanNumber (input : List Char) : Option (Json × List Char) := do
  let (negative, input) :=
    match input with
    | '-' :: rest => (true, rest)
    | rest => (false, rest)
  let (whole, rest) := spanDigits input
  match whole with
  | [] => none
  | '0' :: _ :: _ => none
  | whole =>
    let (part, rest) ← fraction? rest
    let (power, rest) ← exponent? rest
    pure (number negative whole part power, rest)

/-- Drops an expected word. -/
def word? (word : String) (value : Json) (input : List Char) : Option (Json × List Char) :=
  if word.toList.isPrefixOf input then some (value, input.drop word.toList.length) else none

/-- Reads the items of an array after the first one's start, up to and with the bracket.  The fuel
is at least the number of characters left, and each item takes one. -/
def items (element : Step Json) : Nat → List Json → Step (List Json)
  | 0, _, _ => none
  | fuel + 1, read, input =>
    match element (skipBlanks input) with
    | none => none
    | some (item, rest) =>
      match skipBlanks rest with
      | ',' :: rest => items element fuel (item :: read) rest
      | ']' :: rest => some ((item :: read).reverse, rest)
      | _ => none

/-- Reads the members of an object after the first one's start, up to and with the brace.  They are
read as nothing when one of their names is not well-formed. -/
def members (element : Step Json) :
    Nat → Option (List (String × Json)) → Step (Option (List (String × Json)))
  | 0, _, _ => none
  | fuel + 1, read, input =>
    match skipBlanks input with
    | '"' :: rest =>
      match scanString .plain {} rest with
      | none => none
      | some (name, rest) =>
        match skipBlanks rest with
        | ':' :: rest =>
          match element (skipBlanks rest) with
          | none => none
          | some (value, rest) =>
            let read := name.bind fun name => read.map ((name, value) :: ·)
            match skipBlanks rest with
            | ',' :: rest => members element fuel read rest
            | '}' :: rest => some (read.map List.reverse, rest)
            | _ => none
        | _ => none
    | _ => none

/-- Reads a document that starts here.  The fuel is at least the number of characters left, which
bounds how deep arrays and objects nest and how many parts they have. -/
def scan : (fuel : Nat) → Step Json
  | _, [] => none
  | _, '"' :: rest =>
    (scanString .plain {} rest).map fun (text, rest) => (text.elim .illFormed .string, rest)
  | 0, '[' :: _ => none
  | 0, '{' :: _ => none
  | fuel + 1, '[' :: rest =>
    match skipBlanks rest with
    | ']' :: rest => some (.array [], rest)
    | rest => (items (scan fuel) fuel [] rest).map fun (read, rest) => (.array read, rest)
  | fuel + 1, '{' :: rest =>
    match skipBlanks rest with
    | '}' :: rest => some (.object [], rest)
    | rest =>
      (members (scan fuel) fuel (some []) rest).map fun (read, rest) =>
        (read.elim .illFormed .object, rest)
  | _, 'n' :: rest => word? "null" .null ('n' :: rest)
  | _, 't' :: rest => word? "true" (.bool true) ('t' :: rest)
  | _, 'f' :: rest => word? "false" (.bool false) ('f' :: rest)
  | _, input => scanNumber input

/-- Reads a text that holds one document and blanks. -/
def parse (text : String) : Option Json :=
  let characters := text.toList
  match scan characters.length (skipBlanks characters) with
  | none => none
  | some (document, rest) => if (skipBlanks rest).isEmpty then some document else none

end Reconciler.Json
