import StatusBoard.Url.Percent

/-!
Paths as segments. Reading a path resolves `.` and `..`, in any of their spellings, against the
segments before it. A drive letter is never removed, and in `file` URLs it is written with a colon.
-/
namespace StatusBoard.Url.Path

/-- A letter with a colon or a bar. -/
def isDriveLetter : List Char → Bool
  | [a, b] => a.isAlpha && (b == ':' || b == '|')
  | _ => false

/-- A letter with a colon. -/
def isNormalDriveLetter (s : List Char) : Bool :=
  isDriveLetter s && s.getLast? == some ':'

def isDot (s : List Char) : Bool :=
  s ∈ ["." , "%2e", "%2E"].map String.toList

def isDoubleDot (s : List Char) : Bool :=
  s ∈ ["..", "%2e%2e", "%2e%2E", "%2E%2e", "%2E%2E", "%2e.", "%2E.", ".%2e", ".%2E"].map
    String.toList

/-- Splits a text at slashes, in special URLs at backslashes too. -/
def split (special : Bool) (cs : List Char) : List (List Char) :=
  cs.splitOnP fun c => c == '/' || (special && c == '\\')

/-- The segments without the last one, unless that is a drive letter. -/
def shorten (segments : List (List Char)) : List (List Char) :=
  match segments.getLast? with
  | some s => if isDriveLetter s then segments else segments.dropLast
  | none => []

/-- A segment as it is kept. -/
def normal (isFile : Bool) (s : List Char) : List Char :=
  match s with
  | [a, '|'] => if isFile && a.isAlpha then [a, ':'] else s
  | s => s

/-- Appends segments one after another, resolving dots. -/
def append (isFile : Bool) : List (List Char) → List (List Char) → List (List Char)
  | before, [] => before
  | before, [s] =>
    if isDoubleDot s then shorten before ++ [[]]
    else if isDot s then before ++ [[]]
    else before ++ [normal isFile s]
  | before, s :: ss =>
    if isDoubleDot s then append isFile (shorten before) ss
    else if isDot s then append isFile before ss
    else append isFile (before ++ [normal isFile s]) ss

/-- Empty segments in front are dropped, but one is left. -/
def withoutLeadingEmpty : List (List Char) → List (List Char)
  | [] :: s :: ss => withoutLeadingEmpty (s :: ss)
  | ss => ss

/-- Reads a path after its first slash, against the segments before it. -/
def read (special isFile : Bool) (before : List (List Char)) (cs : List Char) :
    List (List Char) :=
  let ss := append isFile before (split special (Percent.encode Percent.inPath cs))
  if isFile then withoutLeadingEmpty ss else ss

/-- The segments, each after a slash. -/
def text (segments : List (List Char)) : List Char :=
  segments.flatMap ('/' :: ·)

end StatusBoard.Url.Path
