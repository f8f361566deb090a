import Reconciler.Controller
import Reconciler.Json.Parser
import Reconciler.Json.Printer

/-!
# Web pages

The controller serves three pages: its diagnostics, a sign of life, and its metrics.
-/

namespace Reconciler.Web

structure Page where
  status : Nat
  contentType : Option String
  body : String
deriving DecidableEq, Inhabited

def jsonPage (document : Json) : Page := ⟨200, some "application/json", document.render⟩

def notFound : Page := ⟨404, none, ""⟩

/-- What the controller tells about itself. -/
def diagnostics (manager : Manager) : Json :=
  .object [("last_event", .string manager.lastEvent.toString)]

/-- The character that an escape stands for, if it may be written without one. -/
def unescaped? (high low : Char) : Option Char :=
  match Json.hexDigit? high, Json.hexDigit? low with
  | some high, some low =>
    let c := Char.ofNat (high * 16 + low)
    if c.toNat < 128 && !"%/+".contains c then some c else none
  | _, _ => none

/-- Undoes escapes of characters that need none. -/
def unescapePath : List Char → List Char
  | '%' :: high :: low :: rest =>
    match unescaped? high low with
    | some c => c :: unescapePath rest
    | none => '%' :: unescapePath (high :: low :: rest)
  | c :: rest => c :: unescapePath rest
  | [] => []

/-- The part of an address after the host, where it names one.  An address that is nothing but a
host has no such part. -/
def afterHost (address : List Char) : List Char :=
  let isScheme (c : Char) := c.isAlphanum || "+-.".contains c
  match address.head?, address.dropWhile isScheme with
  | some '/', _ => address
  | _, ':' :: '/' :: '/' :: rest =>
    match rest.dropWhile fun c => !"/?#".contains c with
    | '/' :: rest => '/' :: rest
    | rest => '/' :: rest
  | _, _ => []

/-- The path of an address, without query and fragment. -/
def pathOf (address : String) : String :=
  let path := (afterHost address.toList).takeWhile fun c => c != '?' && c != '#'
  String.ofList (unescapePath path)

/-- The page at an address. -/
def page (manager : Manager) (method address : String) : Page :=
  if method != "GET" then notFound
  else
    match pathOf address with
    | "/" => jsonPage (diagnostics manager)
    | "/health" => jsonPage (.string "healthy")
    | "/metrics" =>
      ⟨200, some "application/openmetrics-text; version=1.0.0; charset=utf-8",
        manager.metrics.render⟩
    | _ => notFound

end Reconciler.Web
