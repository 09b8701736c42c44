import StatusBoard.Log.Line
import StatusBoard.Text.Ascii

/-!
Which lines of the log are shown. A filter is a list of directives between commas: a level for all,
a level for the targets that begin with a text, or such a text alone, which shows everything of
them. Of the directives that match a target the one with the longest text decides.
-/
namespace StatusBoard.Log

namespace Level

/-- The level with a name, in letters of either case, or with a number; the outer `none` is no
level and the inner one shows nothing. -/
def ofWord? (s : String) : Option (Option Level) :=
  match Text.asciiLower s with
  | "off" | "0" => some none
  | "error" | "1" => some (some .error)
  | "warn" | "2" => some (some .warn)
  | "info" | "3" => some (some .info)
  | "debug" | "4" => some (some .debug)
  | "trace" | "5" => some (some .trace)
  | _ => none

end Level

/-- What is shown of the targets that begin with a text: the lines of a level and the weightier
ones, or none. -/
structure Directive where
  target : String
  shown : Option Level
deriving DecidableEq, Repr

namespace Directive

/-- Whether a target may begin with a character. -/
def startsTarget (c : Char) : Bool :=
  c.isAlphanum || c = '_' || c = ':' || c = '-' || 128 ≤ c.toNat

/-- A directive for a target with a level after the equals sign; no level shows everything. -/
def ofParts? (target level : List Char) : Option Directive :=
  if level = [] then some ⟨.ofList target, some .trace⟩
  else (Level.ofWord? (.ofList level)).map fun shown => ⟨.ofList target, shown⟩

def ofChars? (cs : List Char) : Option Directive :=
  match cs with
  | [] => none
  | c :: _ =>
    if ¬ startsTarget c ∨ '[' ∈ cs then none
    else
      match cs.dropWhile (· ≠ '=') with
      | [] =>
        match Level.ofWord? (.ofList cs) with
        | some shown => some ⟨"", shown⟩
        | none => some ⟨.ofList cs, some .trace⟩
      | _ :: level => ofParts? (cs.takeWhile (· ≠ '=')) level

def shows (d : Directive) (level : Level) : Bool :=
  d.shown.any fun least => level.rank ≤ least.rank

end Directive

/-- The directives in the order in which they were given. -/
structure Filter where
  directives : List Directive
deriving DecidableEq, Repr

namespace Filter

/-- Shows errors only. -/
def errorsOnly : Filter := ⟨[⟨"", some .error⟩]⟩

/-- The filter that a text describes; the empty text shows errors only. -/
def ofText? (s : String) : Option Filter :=
  if s = "" then some errorsOnly
  else (((s.splitOn ",").map String.toList).mapM Directive.ofChars?).map Filter.mk

/-- The longer of two directives; of two that are as long, the later. -/
def narrower (best : Option Directive) (d : Directive) : Option Directive :=
  match best with
  | none => some d
  | some b => if b.target.utf8ByteSize ≤ d.target.utf8ByteSize then some d else some b

/-- The directive that decides about a target. -/
def deciding (f : Filter) (target : String) : Option Directive :=
  (f.directives.filter fun d => d.target.isPrefixOf target).foldl narrower none

def shows (f : Filter) (l : Line) : Bool :=
  (f.deciding l.target).any (·.shows l.level)

/-- The lines that are shown. -/
def apply (f : Filter) (ls : List Line) : List Line :=
  ls.filter f.shows

/-- The directives for a level of the program's own lines and those of its request layer. -/
def defaultDirectives (level : String) : String :=
  let level := Text.asciiLower level
  s!"revolver_dashboard={level},tower_http={level}"

/-- The filter of a run: what the environment asks for if it can be read, else the configured
level. -/
def ofEnvironment (asked : Option String) (level : String) : Filter :=
  match asked.bind ofText? with
  | some f => f
  | none => (ofText? (defaultDirectives level)).getD errorsOnly

end Filter

end StatusBoard.Log
