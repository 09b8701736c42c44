/-!
Text in HTML. The five characters with a meaning of their own are written as entities; reading
replaces each entity by its character in one pass from left to right.
-/
namespace StatusBoard.Html

/-- A character in text or in an attribute value. -/
def escapeChar (c : Char) : List Char :=
  if c = '&' then "&amp;".toList
  else if c = '<' then "&lt;".toList
  else if c = '>' then "&gt;".toList
  else if c = '"' then "&quot;".toList
  else if c = '\'' then "&#39;".toList
  else [c]

/-- A text with its special characters written as entities. -/
def escape (cs : List Char) : List Char :=
  cs.flatMap escapeChar

def escapeText (s : String) : String :=
  String.ofList (escape s.toList)

/-- Replaces entities by their characters. An ampersand that opens none stands for itself. -/
def unescape : List Char → List Char
  | '&' :: 'a' :: 'm' :: 'p' :: ';' :: r => '&' :: unescape r
  | '&' :: 'l' :: 't' :: ';' :: r => '<' :: unescape r
  | '&' :: 'g' :: 't' :: ';' :: r => '>' :: unescape r
  | '&' :: 'q' :: 'u' :: 'o' :: 't' :: ';' :: r => '"' :: unescape r
  | '&' :: '#' :: '3' :: '9' :: ';' :: r => '\'' :: unescape r
  | c :: r => c :: unescape r
  | [] => []

theorem escape_append (s t : List Char) : escape (s ++ t) = escape s ++ escape t := by
  simp [escape]

end StatusBoard.Html
