import StatusBoard.Text.Quoted

/-!
Lines of the log: a level, the part of the program that speaks, a message and named fields.
-/
namespace StatusBoard.Log

/-- How weighty a line is, the weightiest first. -/
inductive Level where
  | error
  | warn
  | info
  | debug
  | trace
deriving DecidableEq, Repr, Inhabited

namespace Level

def rank : Level → Nat
  | .error => 1
  | .warn => 2
  | .info => 3
  | .debug => 4
  | .trace => 5

def word : Level → String
  | .error => "ERROR"
  | .warn => "WARN"
  | .info => "INFO"
  | .debug => "DEBUG"
  | .trace => "TRACE"

end Level

/-- The value of a field. Plain words are quoted, other texts stand as they are. -/
inductive Detail where
  | number (n : Nat)
  | text (s : String)
  | word (s : String)
deriving DecidableEq, Repr

namespace Detail

def render : Detail → String
  | .number n => toString n
  | .text s => s
  | .word s => Text.quoted s

end Detail

/-- A line of the log. -/
structure Line where
  level : Level
  target : String
  message : String
  details : List (String × Detail)
deriving DecidableEq, Repr

namespace Line

def text (l : Line) : String :=
  s!"{l.level.word} {l.target}: {l.message}" ++
    String.join (l.details.map fun d => " " ++ d.1 ++ "=" ++ d.2.render)

end Line

end StatusBoard.Log
