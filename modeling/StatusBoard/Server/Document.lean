import StatusBoard.Board.Page
import StatusBoard.Config.Basic

/-!
The documents that the board server offers. Each is made of one published view.
-/
namespace StatusBoard.Server

/-- The documents that are served. -/
inductive Document where
  | page
  | board
  | health
deriving DecidableEq, Repr

namespace Document

def path : Document → String
  | .page => "/"
  | .board => "/api/board"
  | .health => "/healthz"

def ofPath? (path : String) : Option Document :=
  [page, board, health].find? fun d => d.path = path

def contentType : Document → String
  | .page => "text/html; charset=utf-8"
  | .board => "application/json"
  | .health => "application/json"

end Document

open Json (Value)

/-- The state of the program as readers see it. -/
def healthValue (v : View) : Value :=
  .object [("version", .string version), ("status", .string "ok"), ("passes", .number v.passes),
    ("entries", .number v.entries.length),
    ("reconciled_at", match v.reconciledAt with
      | none => .null
      | some t => .number t)]

/-- The period after which the page is loaded again: the time between two fetches in seconds,
rounded up. -/
def refreshSecs (c : RefreshConfig) : Nat :=
  (c.intervalMs.toNat + 999) / 1000

/-- The text of a document. -/
def content (refreshSecs : Nat) (v : View) : Document → String
  | .page => v.page refreshSecs
  | .board => v.toValue.text
  | .health => (healthValue v).text

end StatusBoard.Server
