import Reconciler.Decimal.Double
import Reconciler.Decimal.Shortest
import Reconciler.Json.Basic

/-!
# Writing JSON text

Documents are written without blanks.  A string escapes the quote, the backslash and control
characters only; a decimal is written as the double it is read as, in its shortest form.  Where the
document is ill-formed, `null` is written.
-/

namespace Reconciler.Json

/-- The digit of a value below sixteen. -/
def hexDigit (value : Nat) : Char :=
  Nat.digitChar value

/-- A character as it stands inside a string. -/
def escapeChar (c : Char) : List Char :=
  if c == '"' then ['\\', '"']
  else if c == '\\' then ['\\', '\\']
  else if c == '\n' then ['\\', 'n']
  else if c == '\r' then ['\\', 'r']
  else if c == '\t' then ['\\', 't']
  else if c == '\x08' then ['\\', 'b']
  else if c == '\x0c' then ['\\', 'f']
  else if c.toNat < 0x20 then
    ['\\', 'u', '0', '0', hexDigit (c.toNat / 16), hexDigit (c.toNat % 16)]
  else [c]

/-- A string with its quotes. -/
def quote (text : String) : String :=
  "\"" ++ String.ofList (text.toList.flatMap escapeChar) ++ "\""

/-- Numbers in documents are positional from `1e-5` up to sixteen digits. -/
def numberLayout : Decimal.Layout := ⟨16, -5⟩

/-- The text of a decimal; one that no double reaches is written as zero. -/
def renderDecimal (negative : Bool) (coefficient : Nat) (exponent : Int) : String :=
  let value := (Decimal.toDouble? coefficient exponent).getD 0
  numberLayout.render Decimal.Binary.shortest (if negative then -value else value).toBits

mutual

/-- The text of a document. -/
def render : Json → String
  | .null => "null"
  | .bool true => "true"
  | .bool false => "false"
  | .integer value => toString value
  | .decimal negative coefficient exponent => renderDecimal negative coefficient exponent
  | .string text => quote text
  | .array items => "[" ++ ",".intercalate (renderItems items) ++ "]"
  | .object members => "\x7b" ++ ",".intercalate (renderMembers members) ++ "\x7d"
  | .illFormed => "null"

/-- The texts of the items of an array. -/
def renderItems : List Json → List String
  | [] => []
  | item :: items => render item :: renderItems items

/-- The texts of the members of an object. -/
def renderMembers : List (String × Json) → List String
  | [] => []
  | (name, value) :: members => (quote name ++ ":" ++ render value) :: renderMembers members

end

end Reconciler.Json
