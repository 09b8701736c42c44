/-!
The letters of ASCII.
-/
namespace StatusBoard.Text

/-- The text with its ASCII letters in lower case. -/
def asciiLower (s : String) : String :=
  String.ofList (s.toList.map Char.toLower)

end StatusBoard.Text
