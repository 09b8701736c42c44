import StatusBoard.Board.View

/-!
The board as lines of text: the client, the counts, then one row per entry. Names are padded to a
common width, which is the length of the longest name in bytes; padding counts characters. There is
a limit to this width, and no text of a board with a longer name.
-/
namespace StatusBoard.View

/-- A text with spaces after it up to a width in characters. -/
def padded (width : Nat) (s : String) : String :=
  s ++ String.ofList (List.replicate (width - s.length) ' ')

/-- The width of the column of names. -/
def nameWidth (v : View) : Nat :=
  (v.entries.map (·.name.utf8ByteSize)).foldl max 0

def row (width : Nat) (e : EntryView) : String :=
  "[" ++ padded 5 e.indicator.word ++ "] " ++ padded width e.name ++
    s!"  Instances: {e.instances}  Healthy: {e.healthy}  Unhealthy: {e.unhealthy}  APIs: " ++
    toString e.apis.length ++ "\n"

def clientLine (v : View) : String :=
  "client: " ++ v.clientId.getD "-" ++ "\n"

def countsLine (c : Counts) : String :=
  s!"services: {c.total} total, {c.healthy} healthy, {c.unhealthy} unhealthy, " ++
    s!"{c.unknown} unknown\n"

/-- The text of the board, whatever the width. -/
def listing (v : View) : String :=
  v.clientLine ++ countsLine v.counts ++ String.join (v.entries.map (row v.nameWidth))

/-- The widest column that can be laid out. -/
def widthLimit : Nat := 65535

/-- The text of the board, if it can be laid out. -/
def listing? (v : View) : Option String :=
  if v.nameWidth ≤ widthLimit then some v.listing else none

end StatusBoard.View
