import StatusBoard.Url.Basic

/-!
Reading URLs, alone or against a base. Spaces and controls around the text and tabs and line ends
inside it count for nothing.
-/
namespace StatusBoard.Url

def isEdge (c : Char) : Bool := c.toNat ≤ 0x20

/-- The text without what counts for nothing. -/
def significant (cs : List Char) : List Char :=
  let trimmed := ((cs.dropWhile isEdge).reverse.dropWhile isEdge).reverse
  trimmed.filter fun c => c != '\t' && c != '\n' && c != '\r'

def isSchemeChar (c : Char) : Bool :=
  c.isAlphanum || c == '+' || c == '-' || c == '.'

/-- The scheme in lower case, and the rest after its colon. -/
def scheme? (cs : List Char) : Option (String × List Char) :=
  match cs with
  | [] => none
  | c :: _ =>
    let name := cs.takeWhile isSchemeChar
    match cs.drop name.length with
    | ':' :: r => if c.isAlpha then some (String.ofList (name.map Char.toLower), r) else none
    | _ => none

/-- Splits before the query and the fragment. -/
def splitTail (cs : List Char) : List Char × List Char :=
  cs.span fun c => c != '?' && c != '#'

/-- The query and the fragment, from their marks on. -/
def tail (special : Bool) : List Char → Option (List Char) × Option (List Char)
  | '?' :: r =>
    let (q, r) := r.span (· != '#')
    (some (Percent.encode (Percent.inQuery special) q), fragment r)
  | r => (none, fragment r)
where
  fragment : List Char → Option (List Char)
    | '#' :: r => some (Percent.encode Percent.inFragment r)
    | _ => none

/-- Whether a character ends the authority. -/
def endsAuthority (special : Bool) (c : Char) : Bool :=
  c == '/' || c == '?' || c == '#' || (special && c == '\\')

/-- User name and password in front of the last at sign of an authority, encoded. -/
def userinfo (cs : List Char) : List Char × List Char :=
  let (name, password) := cs.span (· != ':')
  (Percent.encode Percent.inUserinfo name, Percent.encode Percent.inUserinfo (password.drop 1))

/-- The credentials of an authority, and what follows them. An at sign without credentials in
front and nothing behind it makes no authority. -/
def splitCredentials (special : Bool) (cs : List Char) :
    Except ParseError ((List Char × List Char) × List Char) :=
  let whole := cs.takeWhile fun c => !endsAuthority special c
  match whole.reverse.span (· != '@') with
  | (_, []) => .ok (([], []), cs)
  | (behind, _ :: front) =>
    let rest := cs.drop (front.length + 1)
    if front = [] ∧ behind = [] ∧ rest ≠ [] then .error .emptyHost
    else .ok (userinfo front.reverse, rest)

/-- The length of the host in front: up to a colon outside of brackets. -/
def hostLength (special : Bool) : Bool → List Char → Nat
  | _, [] => 0
  | inBrackets, c :: r =>
    if (c == ':' && !inBrackets) || endsAuthority special c then 0
    else if c == '[' then hostLength special true r + 1
    else if c == ']' then hostLength special false r + 1
    else hostLength special inBrackets r + 1

/-- A port after its colon, and the rest. -/
def port (scheme : String) (cs : List Char) : Except ParseError (Option Nat × List Char) :=
  let ds := cs.takeWhile Char.isDigit
  let n := ds.foldl (fun n d => 10 * n + (d.toNat - '0'.toNat)) 0
  let rest := cs.drop ds.length
  let ended := match rest with
    | [] => true
    | c :: _ => endsAuthority true c
  if 65535 < n ∨ ended = false then .error .invalidPort
  else .ok (if ds = [] ∨ some n = defaultPort? scheme then none else some n, rest)

/-- The host and the port, and the rest. -/
def hostAndPort (scheme : String) (cs : List Char) :
    Except ParseError (Host × Option Nat × List Char) := do
  let special := schemeKind scheme != .other
  let name := cs.take (hostLength special false cs)
  let rest := cs.drop name.length
  let host ← if special then
      if name = [] then .error .emptyHost else Host.parseSpecial name
    else Host.parseOpaque name
  match rest with
  | ':' :: r =>
    if host = .empty then .error .emptyHost
    else do
      let (p, r) ← port scheme r
      .ok (host, p, r)
  | r => .ok (host, none, r)

/-- A path after an authority, and the rest from the query on. -/
def pathAfterAuthority (special : Bool) (cs : List Char) : Path × List Char :=
  let (p, rest) := splitTail cs
  let isSlash (c : Char) : Bool := c == '/' || (special && c == '\\')
  match p with
  | [] => (.segments (if special then [[]] else []), rest)
  | c :: r =>
    (.segments (Path.read special false [] (if isSlash c then r else c :: r)), rest)

/-- A URL from what follows the two slashes. -/
def afterSlashes (scheme : String) (cs : List Char) : Except ParseError Url := do
  let special := schemeKind scheme != .other
  let ((username, password), r) ← splitCredentials special cs
  let (host, port, r) ← hostAndPort scheme r
  if host = .empty ∧ (username ≠ [] ∨ password ≠ []) then .error .emptyHost
  else
    let (path, r) := pathAfterAuthority special r
    let (query, fragment) := tail special r
    .ok ⟨scheme, some ⟨username, password, host, port⟩, path, query, fragment⟩

/-- A URL of a scheme that is not special. -/
def ofOther (scheme : String) (cs : List Char) : Except ParseError Url :=
  match cs with
  | '/' :: '/' :: r => afterSlashes scheme r
  | cs =>
    let (p, rest) := splitTail cs
    let (query, fragment) := tail false rest
    let path := match p with
      | '/' :: r => Path.segments (Path.read false false [] r)
      | p => Path.opaquePath (Percent.encode Percent.inControls p)
    .ok ⟨scheme, none, path, query, fragment⟩

/-- A text as a reference to a base whose path has segments: its path, query and fragment stand for
those of the base from the first one given on. -/
def relative (base : Url) (cs : List Char) : Except ParseError Url :=
  let special := base.isSpecial
  let segments := match base.path with
    | .segments ss => ss
    | .opaquePath _ => []
  let resolve (before : List (List Char)) (cs : List Char) : Except ParseError Url :=
    let (p, rest) := splitTail cs
    let (query, fragment) := tail special rest
    .ok ⟨base.scheme, base.authority, .segments (Path.read special false before p), query,
      fragment⟩
  let isSlash (c : Char) : Bool := c == '/' || c == '\\'
  match cs with
  | [] => .ok ⟨base.scheme, base.authority, base.path, base.query, none⟩
  | '?' :: _ =>
    let (query, fragment) := tail special cs
    .ok ⟨base.scheme, base.authority, base.path, query, fragment⟩
  | '#' :: _ => .ok { base with fragment := (tail special cs).2 }
  | a :: r =>
    if isSlash a then
      match r with
      | [] => resolve [] []
      | b :: r' =>
        if isSlash b then
          if a = '/' ∧ b = '/' then afterSlashes base.scheme r'
          else afterSlashes base.scheme (r'.dropWhile isSlash)
        else resolve [] r
    else resolve segments.dropLast cs

/-- Whether a text begins with a drive letter that ends there. -/
def startsWithDriveLetter : List Char → Bool
  | a :: b :: r =>
    Path.isDriveLetter [a, b] && (match r with
      | [] => true
      | c :: _ => endsAuthority true c)
  | _ => false

/-- The host of a `file` URL; `localhost` stands for none. -/
def fileHost (name : List Char) : Except ParseError Host :=
  if name = [] then .ok .empty
  else do
    let host ← Host.parseSpecial name
    .ok (if host = .name "localhost" then .empty else host)

/-- A `file` URL from its host, the segments before its path and the text of the path. -/
def fileUrl (host : Host) (before : List (List Char)) (cs : List Char) : Url :=
  let (p, rest) := splitTail cs
  let (query, fragment) := tail true rest
  ⟨"file", some (.ofHost host), .segments (Path.read true true before p), query, fragment⟩

/-- Whether some segment is a drive letter. -/
def hasDriveLetter (u : Url) : Bool :=
  match u.path with
  | .segments ss => ss.any Path.isDriveLetter
  | .opaquePath _ => false

/-- A `file` URL, against another one as its base. -/
def file (base : Option Url) (cs : List Char) : Except ParseError Url :=
  let isSlash (c : Char) : Bool := c == '/' || c == '\\'
  let baseSegments := match base.map (·.path) with
    | some (.segments ss) => ss
    | _ => []
  let baseHost := ((base.bind (·.authority)).map (·.host)).getD .empty
  match cs with
  | a :: b :: r =>
    if isSlash a && isSlash b then
      let name := r.takeWhile fun c => !endsAuthority true c
      if Path.isDriveLetter name then .ok (fileUrl .empty [] r)
      else do
        let host ← fileHost name
        let rest := r.drop name.length
        let path := match rest with
          | c :: r => if isSlash c then r else c :: r
          | [] => []
        let u := fileUrl host [] path
        .ok (if host ≠ .empty ∧ hasDriveLetter u then fileUrl .empty [] path else u)
    else fileRelative a (b :: r) baseHost baseSegments
  | [a] => fileRelative a [] baseHost baseSegments
  | [] =>
    match base with
    | some base => .ok { base with fragment := none }
    | none => .ok (fileUrl .empty [] [])
where
  /-- A text that names no host. -/
  fileRelative (a : Char) (r : List Char) (baseHost : Host) (baseSegments : List (List Char)) :
      Except ParseError Url :=
    if a = '/' ∨ a = '\\' then
      if startsWithDriveLetter r then .ok (fileUrl .empty [] r)
      else match baseSegments with
        | s :: _ =>
          if Path.isNormalDriveLetter s then .ok (fileUrl .empty [s] r)
          else .ok (fileUrl baseHost [] r)
        | [] => .ok (fileUrl baseHost [] r)
    else match base with
      | none => .ok (fileUrl .empty [] (a :: r))
      | some base =>
        if a = '?' then
          let (query, fragment) := tail true (a :: r)
          .ok { base with query := query, fragment := fragment }
        else if a = '#' then .ok { base with fragment := (tail true (a :: r)).2 }
        else if startsWithDriveLetter (a :: r) then .ok (fileUrl .empty [] (a :: r))
        else
          let before := match baseSegments.getLast? with
            | some s => if Path.isNormalDriveLetter s then baseSegments else baseSegments.dropLast
            | none => []
          .ok (fileUrl baseHost before (a :: r))

/-- A URL after its scheme, against a base. -/
def afterScheme (base : Option Url) (scheme : String) (cs : List Char) : Except ParseError Url :=
  let isSlash (c : Char) : Bool := c == '/' || c == '\\'
  match schemeKind scheme with
  | .file => file (base.filter (·.scheme = "file")) cs
  | .other => ofOther scheme cs
  | .special =>
    let slashes := cs.takeWhile isSlash
    match base with
    | some b =>
      if slashes.length < 2 ∧ b.scheme = scheme then relative b cs
      else afterSlashes scheme (cs.drop slashes.length)
    | none => afterSlashes scheme (cs.drop slashes.length)

/-- A URL from its significant characters, against a base. -/
def read (base : Option Url) (cs : List Char) : Except ParseError Url :=
  match scheme? cs with
  | some (scheme, r) => afterScheme base scheme r
  | none =>
    match base with
    | none => .error .relativeWithoutBase
    | some b =>
      match b.path, cs with
      | _, '#' :: _ => .ok { b with fragment := (tail b.isSpecial cs).2 }
      | .opaquePath _, _ => .error .relativeWithOpaqueBase
      | .segments _, cs => if b.kind = .file then file (some b) cs else relative b cs

/-- The URL that a text is. -/
def parse (s : String) : Except ParseError Url :=
  read none (significant s.toList)

/-- Whether a text is a URL of HTTP by itself, plain or secured. -/
def isHttpText (s : String) : Bool :=
  match parse s with
  | .ok u => u.scheme = "http" || u.scheme = "https"
  | .error _ => false

/-- The URL that a text refers to from this one. -/
def join (base : Url) (s : String) : Except ParseError Url :=
  read (some base) (significant s.toList)

/-- The URL with its path read anew. Where the path has segments, the text begins with a slash; a
slash in front of an opaque path is encoded. -/
def withPath (u : Url) (cs : List Char) : Url :=
  match u.path, cs with
  | .segments _, cs =>
    { u with path := .segments (Path.read u.isSpecial (u.kind == .file) [] (cs.drop 1)) }
  | .opaquePath _, '/' :: cs =>
    { u with path := .opaquePath ("%2F".toList ++ Percent.encode Percent.inControls cs) }
  | .opaquePath _, cs => { u with path := .opaquePath (Percent.encode Percent.inControls cs) }

/-- The URL with its path taken as a directory: with a slash at the end. -/
def asDirectory (u : Url) : Url :=
  let path := u.path.toText
  if path.getLast? = some '/' then u else u.withPath (path ++ ['/'])

end StatusBoard.Url
