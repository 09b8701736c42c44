import StatusBoard.Url.Ip
import StatusBoard.Url.Percent

/-!
References between resources in the strict form: five parts of ASCII characters, resolved against
an absolute base part by part. Unlike the reading of URLs this repairs nothing: a text with a
character that would have to be encoded is no reference.
-/
namespace StatusBoard.Url

/-- A reference in its parts. -/
structure Reference where
  scheme : Option (List Char)
  authority : Option (List Char)
  path : List Char
  query : Option (List Char)
deriving DecidableEq, Repr

namespace Reference

def isUnreserved (c : Char) : Bool :=
  c.isAlphanum || c ∈ ['-', '.', '_', '~']

def isSubDelimiter (c : Char) : Bool :=
  c ∈ ['!', '$', '&', '\'', '(', ')', '*', '+', ',', ';', '=']

/-- Whether a text holds only given characters and encoded bytes. -/
def consistsOf (ok : Char → Bool) : List Char → Bool
  | '%' :: a :: b :: r => isHex a && isHex b && consistsOf ok r
  | c :: r => ok c && consistsOf ok r
  | [] => true
where
  isHex (c : Char) : Bool := c.isDigit || c.toLower ∈ ['a', 'b', 'c', 'd', 'e', 'f']

def isPathChar (c : Char) : Bool :=
  isUnreserved c || isSubDelimiter c || c ∈ [':', '@', '/']

def isQueryChar (c : Char) : Bool :=
  isPathChar c || c == '?'

/-- Splits at the first of the given characters. -/
def splitAt (mark : Char) (cs : List Char) : List Char × Option (List Char) :=
  match cs.span (· != mark) with
  | (front, []) => (front, none)
  | (front, _ :: behind) => (front, some behind)

/-- The scheme, if a colon comes before any slash, and the rest. A colon behind what is no scheme
makes no reference. -/
def splitScheme (cs : List Char) : Option (Option (List Char) × List Char) :=
  match splitAt ':' cs with
  | (_, none) => some (none, cs)
  | (front, some behind) =>
    if '/' ∈ front then some (none, cs)
    else match front with
      | c :: _ =>
        if c.isAlpha ∧ front.all (fun c => c.isAlphanum || c ∈ ['+', '-', '.']) then
          some (some front, behind)
        else none
      | [] => none

/-- The authority, if two slashes come first, and the path. -/
def splitAuthority (cs : List Char) : Option (List Char) × List Char :=
  match cs with
  | '/' :: '/' :: r =>
    let authority := r.takeWhile (· != '/')
    (some authority, r.drop authority.length)
  | cs => (none, cs)

/-- Whether a text may be an authority: a user, a host and a port. The host holds no encoded
bytes. -/
def isAuthority (cs : List Char) : Bool :=
  let (user, host) := match splitAt '@' cs with
    | (host, none) => ([], host)
    | (user, some host) => (user, host)
  let isNameChar (c : Char) : Bool := isUnreserved c || isSubDelimiter c
  consistsOf (fun c => isNameChar c || c == ':') user &&
    match host with
    | '[' :: r =>
      let address := r.takeWhile (· != ']')
      (Ipv6.parse? address).isSome && isPort (r.drop address.length)
    | host =>
      let name := host.takeWhile (· != ':')
      name.all isNameChar && isPort (']' :: host.drop name.length)
where
  /-- The end of a host and a port after it. -/
  isPort : List Char → Bool
    | [']'] => true
    | ']' :: ':' :: ds => ds.all Char.isDigit
    | _ => false

/-- The reference that a text is. Its fragment is left out. -/
def parse? (s : String) : Option Reference := do
  let (cs, fragment) := splitAt '#' s.toList
  let (cs, query) := splitAt '?' cs
  let (scheme, cs) ← splitScheme cs
  let (authority, path) := splitAuthority cs
  if (fragment.getD []).all (fun c => c != '#') ∧ consistsOf isQueryChar (fragment.getD []) ∧
      consistsOf isQueryChar (query.getD []) ∧ consistsOf isPathChar path ∧
      isAuthority (authority.getD []) then
    some ⟨scheme, authority, path, query⟩
  else none

/-- Resolves the dots among segments, given those before them in reverse. -/
def resolveDots (before : List (List Char)) : List (List Char) → List (List Char)
  | [] => before.reverse
  | [s] =>
    if s = ['.'] then ([] :: before).reverse
    else if s = ['.', '.'] then ([] :: before.tail).reverse
    else (s :: before).reverse
  | s :: ss =>
    if s = ['.'] then resolveDots before ss
    else if s = ['.', '.'] then resolveDots before.tail ss
    else resolveDots (s :: before) ss

/-- A path with its dots resolved. -/
def normalPath (cs : List Char) : List Char :=
  match cs with
  | '/' :: r => (resolveDots [] (r.splitOn '/')).flatMap ('/' :: ·)
  | cs => cs

/-- A path that begins with no slash, put in place of what follows the last slash of the base. -/
def merge (base : Reference) (path : List Char) : List Char :=
  if base.path = [] then '/' :: path
  else (base.path.reverse.dropWhile (· != '/')).reverse ++ path

/-- The reference as seen from an absolute base. -/
def resolve (base r : Reference) : Reference :=
  if r.scheme.isSome then { r with path := normalPath r.path }
  else if r.authority.isSome then { r with scheme := base.scheme, path := normalPath r.path }
  else
    match r.path with
    | [] => { base with query := if r.query.isSome then r.query else base.query }
    | '/' :: _ => ⟨base.scheme, base.authority, normalPath r.path, r.query⟩
    | path => ⟨base.scheme, base.authority, normalPath (merge base path), r.query⟩

/-- Whether a resolved reference names a place to ask: it has a host, or it is short enough to be
one itself, as in a mail address. -/
def isPlace (r : Reference) : Bool :=
  match r.authority with
  | some host => host != []
  | none =>
    match splitAt '@' r.path with
    | (whole, none) => r.query.isNone && whole.all fun c => c != '/' && c != ':' && c != '%'
    | (user, some host) =>
      r.query.isNone && user.all (· != '/') && host != [] && host.count ':' ≤ 1 &&
        host.all fun c => c != '/' && c != '@' && c != '%'

def text (r : Reference) : String :=
  .ofList ((match r.scheme with
    | some s => s ++ [':']
    | none => []) ++ (match r.authority with
    | some a => '/' :: '/' :: a
    | none => []) ++ r.path ++ match r.query with
    | some q => '?' :: q
    | none => [])

end Reference

end StatusBoard.Url
