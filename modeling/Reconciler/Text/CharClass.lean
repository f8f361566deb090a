import Reconciler.Text.CharTables

/-!
# Case and visibility of characters

Lower-casing follows the full Unicode mapping: each letter on its own, save that a capital sigma at
the end of a word becomes the final form.
-/

namespace Reconciler.Text

/-- A code point lies in one of the ranges. -/
def inRanges (ranges : List (Nat × Nat)) (c : Char) : Bool :=
  ranges.any fun range => range.1 ≤ c.toNat && c.toNat ≤ range.2

/-- A character that a quoted text shows by number. -/
def isHidden (c : Char) : Bool :=
  if 0x20 ≤ c.toNat ∧ c.toNat < 0x7f then false else inRanges escapedRanges c

def isCased : Char → Bool := inRanges casedRanges

def isCaseIgnorable : Char → Bool := inRanges caseIgnorableRanges

/-- The lower-case letter of a range that the character belongs to. -/
def lowerIn (c : Char) (range : Nat × Nat × Nat × Int) : Option Char :=
  let (first, last, step, shift) := range
  if first ≤ c.toNat ∧ c.toNat ≤ last ∧ (c.toNat - first) % step = 0 then
    some (Char.ofNat ((c.toNat : Int) + shift).toNat)
  else none

/-- The lower-case form of a character on its own. -/
def lowerChar (c : Char) : List Char :=
  if c.toNat < 0x80 then [c.toLower]
  else if c.toNat = 0x130 then ['i', Char.ofNat 0x307]
  else [(lowerRanges.findSome? (lowerIn c)).getD c]

/-- The next character that case depends on has a case. -/
def casedNext (characters : List Char) : Bool :=
  match characters.dropWhile isCaseIgnorable with
  | [] => false
  | c :: _ => isCased c

/-- Lower-cases what follows the characters `before`, which are in reverse. -/
def lowerAfter (before : List Char) : List Char → List Char
  | [] => []
  | c :: rest =>
    let lowered :=
      if c.toNat = 0x3a3 then
        [Char.ofNat (if casedNext before && !casedNext rest then 0x3c2 else 0x3c3)]
      else lowerChar c
    lowered ++ lowerAfter (c :: before) rest

/-- The lower-case form of a text. -/
def lowercase (text : String) : String :=
  String.ofList (lowerAfter [] text.toList)

end Reconciler.Text
