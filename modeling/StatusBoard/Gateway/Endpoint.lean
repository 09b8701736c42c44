import StatusBoard.Url.Parser

/-!
The endpoint of the status document: the status path resolved against the base URL, which counts as
a directory with or without a slash at its end.
-/
namespace StatusBoard

/-- The endpoint, or why there is none. -/
def statusUrl (baseUrl statusPath : String) : Except Url.ParseError Url := do
  (← Url.parse baseUrl).asDirectory.join statusPath

end StatusBoard
