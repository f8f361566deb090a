import Reconciler.Json.Basic
import Reconciler.Text.Digits

/-!
# JSON pointers

A pointer (RFC 6901) is empty, or names one step after each slash.  An array step is a decimal index
without leading zeros.
-/

namespace Reconciler.Json

/-- A step with its escapes undone: `~1` is a slash and `~0` a tilde. -/
def unescapeStep : List Char → List Char
  | '~' :: '1' :: rest => '/' :: unescapeStep rest
  | '~' :: '0' :: rest => '~' :: unescapeStep rest
  | c :: rest => c :: unescapeStep rest
  | [] => []

/-- The index that a step names. -/
def index? (step : String) : Option Nat :=
  if step.startsWith "0" && step.length != 1 then none else Text.ofDigits? step.toList

/-- Follows one step into a document. -/
def step? (step : String) : Json → Option Json
  | .object members => members.lookup step
  | .array items => (index? step).bind (items[·]?)
  | _ => none

/-- The part of a document that a pointer names. -/
def at? (pointer : String) (document : Json) : Option Json :=
  if pointer.isEmpty then some document
  else if !pointer.startsWith "/" then none
  else
    ((pointer.splitOn "/").drop 1).foldlM
      (fun part step => step? (String.ofList (unescapeStep step.toList)) part) document

end Reconciler.Json
