import Reconciler.Json.Basic

/-!
# Writing YAML text

Documents are written in block style.  Items of an array stand at the indentation of the array's
name, and empty arrays and objects are written in place.  Text stands plain unless it could be taken
for something else; it has to be one line of printable characters.  Where the document is
ill-formed, `null` is written.
-/

namespace Reconciler.Yaml

/-- Words that stand for truth values or for nothing. -/
def reservedWords : List String :=
  ["y", "Y", "yes", "Yes", "YES", "n", "N", "no", "No", "NO", "true", "True", "TRUE", "false",
    "False", "FALSE", "on", "On", "ON", "off", "Off", "OFF", "null", "Null", "NULL", "~"]

/-- Text that could be read as a number. -/
def numberLike (text : List Char) : Bool :=
  text.any Char.isDigit && text.all fun c => c.isDigit || "+-._eE".contains c

/-- A mark at the beginning of plain text that would give it another meaning. -/
def opensOtherwise : List Char → Bool
  | [] => true
  | c :: rest =>
    "#,[]\x7b\x7d&*!|>'\"%@`".contains c || c == ' ' ||
      ("-?:".contains c && (rest.isEmpty || rest.head? == some ' '))

/-- A colon before a blank, a number sign after one, or a blank at the end. -/
def breaksInside : List Char → Bool
  | [] => false
  | [c] => c == ' ' || c == ':'
  | c :: d :: rest => (c == ':' && d == ' ') || (c == ' ' && d == '#') || breaksInside (d :: rest)

/-- Text that may be written without quotes. -/
def isPlain (text : String) : Bool :=
  !reservedWords.contains text && !numberLike text.toList && !opensOtherwise text.toList &&
    !breaksInside text.toList

/-- Text as it is written. -/
def scalar (text : String) : String :=
  if isPlain text then text
  else
    let doubled := text.toList.flatMap fun c => if c == '\x27' then [c, c] else [c]
    "'" ++ String.ofList doubled ++ "'"

/-- Puts the lines of an item behind a dash. -/
def dashed : List String → List String
  | [] => []
  | first :: rest => ("- " ++ first) :: rest.map ("  " ++ ·)

mutual

/-- The lines of a document. -/
def lines : Json → List String
  | .array (item :: items) => itemLines (item :: items)
  | .object (member :: members) => memberLines (member :: members)
  | .null => ["null"]
  | .bool value => [if value then "true" else "false"]
  | .integer value => [toString value]
  | .decimal negative coefficient exponent =>
    [(if negative then "-" else "") ++ toString coefficient ++ "e" ++ toString exponent]
  | .string text => [scalar text]
  | .array [] => ["[]"]
  | .object [] => ["\x7b\x7d"]
  | .illFormed => ["null"]

/-- The lines of the items of an array. -/
def itemLines : List Json → List String
  | [] => []
  | item :: items => dashed (lines item) ++ itemLines items

/-- The lines of the members of an object. -/
def memberLines : List (String × Json) → List String
  | [] => []
  | (name, .array (item :: items)) :: members =>
    (scalar name ++ ":") :: itemLines (item :: items) ++ memberLines members
  | (name, .object (member :: inner)) :: members =>
    (scalar name ++ ":") :: (memberLines (member :: inner)).map ("  " ++ ·) ++ memberLines members
  | (name, value) :: members =>
    (lines value).map (scalar name ++ ": " ++ ·) ++ memberLines members

end

/-- The text of a document. -/
def render (document : Json) : String := String.join ((lines document).map (· ++ "\n"))

end Reconciler.Yaml
