import StatusBoard.Url.Host
import StatusBoard.Url.Path

/-!
URLs in their parts. A URL with a path in segments can be the base of others; one with an opaque
path cannot.
-/
namespace StatusBoard

namespace Url

/-- The path of a URL. -/
inductive Path where
  | opaquePath (s : List Char)
  | segments (ss : List (List Char))
deriving DecidableEq, Repr

namespace Path

def toText : Path → List Char
  | .opaquePath s => s
  | .segments ss => text ss

end Path

/-- What the scheme says about the other parts. -/
inductive SchemeKind where
  | file
  | special
  | other
deriving DecidableEq, Repr

def schemeKind (scheme : String) : SchemeKind :=
  if scheme = "file" then .file
  else if scheme ∈ ["http", "https", "ws", "wss", "ftp"] then .special
  else .other

/-- The port that a scheme implies. -/
def defaultPort? (scheme : String) : Option Nat :=
  if scheme = "http" ∨ scheme = "ws" then some 80
  else if scheme = "https" ∨ scheme = "wss" then some 443
  else if scheme = "ftp" then some 21
  else none

/-- User name and password, encoded, and the host with its port; a port that the scheme implies is
left out. -/
structure Authority where
  username : List Char
  password : List Char
  host : Host
  port : Option Nat
deriving DecidableEq, Repr

namespace Authority

/-- An authority of a host alone. -/
def ofHost (host : Host) : Authority := ⟨[], [], host, none⟩

def credentials (a : Authority) : List Char :=
  if a.username = [] ∧ a.password = [] then []
  else a.username ++ (if a.password = [] then [] else ':' :: a.password) ++ ['@']

def text (a : Authority) : List Char :=
  a.credentials ++ a.host.text.toList ++
    match a.port with
    | none => []
    | some p => ':' :: Nat.toDigits 10 p

end Authority

end Url

/-- A URL. -/
structure Url where
  scheme : String
  authority : Option Url.Authority
  path : Url.Path
  query : Option (List Char)
  fragment : Option (List Char)
deriving DecidableEq, Repr

namespace Url

def kind (u : Url) : SchemeKind := schemeKind u.scheme

def isSpecial (u : Url) : Bool := u.kind != .other

/-- A mark in front of a part, if there is such a part. -/
def marked (mark : Char) : Option (List Char) → List Char
  | none => []
  | some s => mark :: s

/-- Keeps a path that begins with two slashes from being read as an authority. -/
def guard (u : Url) : List Char :=
  match u.authority, u.path with
  | none, .segments ([] :: _ :: _) => ['/', '.']
  | _, _ => []

def authorityText (u : Url) : List Char :=
  match u.authority with
  | none => []
  | some a => '/' :: '/' :: a.text

/-- The text of a URL. -/
def chars (u : Url) : List Char :=
  u.scheme.toList ++ [':'] ++ u.authorityText ++ u.guard ++ u.path.toText ++
    marked '?' u.query ++ marked '#' u.fragment

def text (u : Url) : String := String.ofList u.chars

end Url

end StatusBoard
