import Reconciler.Text.CharClass

/-!
# Quoted text

A text between quotes on one line: quotes and backslashes get a backslash, the usual controls their
letter, and any other character that would not be seen is shown by its code point.  A value with
parts is shown as its name with the parts behind it, between parentheses or between braces.
-/

namespace Reconciler.Text

/-- The hexadecimal digits of a code point between braces. -/
def showNumber (c : Char) : List Char :=
  ['\\', 'u', '\x7b'] ++ Nat.toDigits 16 c.toNat ++ ['\x7d']

/-- A character as it stands between the quotes. -/
def quotedChar (c : Char) : List Char :=
  if c = '"' then ['\\', '"']
  else if c = '\\' then ['\\', '\\']
  else if c = '\n' then ['\\', 'n']
  else if c = '\r' then ['\\', 'r']
  else if c = '\t' then ['\\', 't']
  else if c.toNat = 0 then ['\\', '0']
  else if isHidden c then showNumber c
  else [c]

/-- A text between quotes. -/
def quoted (text : String) : String :=
  "\"" ++ String.ofList (text.toList.flatMap quotedChar) ++ "\""

/-- A name with its parts between parentheses. -/
def tuple (name : String) (parts : List String) : String :=
  name ++ ("(" ++ ", ".intercalate parts ++ ")")

/-- A name with its parts, which have names of their own, between braces. -/
def record (name : String) (parts : List (String × String)) : String :=
  name ++ (" \x7b " ++ ", ".intercalate (parts.map fun part => part.1 ++ ": " ++ part.2) ++
    " \x7d")

/-- The marks that may stand behind a name. -/
def closesName (c : Char) : Bool := c == '(' || c == ' ' || c == '\x7b'

/-- The text up to the first mark that closes a name. -/
def opening (text : String) : String :=
  String.ofList (text.toList.takeWhile fun c => !closesName c)

end Reconciler.Text
