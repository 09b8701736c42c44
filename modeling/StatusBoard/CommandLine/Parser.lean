import StatusBoard.CommandLine.Basic

/-!
Reading a command line. A word is an option with a long name, an option with a one-letter name, the
end of the options, or a plain word, which is the value of the option before it. The value of an
option may also be attached. What an option was given is looked at only when the next option or the
end comes, so that a word which is no option at all is reported first.
-/
namespace StatusBoard

namespace Arguments

/-- A word of a command line, by its form. -/
inductive Word where
  | endOfOptions
  | long (name : String) (value : Option String)
  | short (letters : List Char)
  | plain (s : String)
deriving DecidableEq, Repr

namespace Word

/-- The name and the attached value after two dashes. -/
def ofLong (cs : List Char) : Word :=
  match cs.dropWhile (· ≠ '=') with
  | [] => .long (.ofList cs) none
  | _ :: v => .long (.ofList (cs.takeWhile (· ≠ '='))) (some (.ofList v))

def ofText (s : String) : Word :=
  match s.toList with
  | ['-', '-'] => .endOfOptions
  | '-' :: '-' :: cs => ofLong cs
  | '-' :: c :: cs => .short (c :: cs)
  | _ => .plain s

end Word

/-- A command line that is being read: an option may wait for its value, or for its value to be
looked at. -/
structure Reading where
  given : Arguments := {}
  waiting : Option (Parameter × Option String) := none
deriving DecidableEq, Repr

namespace Reading

/-- Looks at the value of the waiting option. -/
def settle (r : Reading) : Except UsageError Arguments :=
  match r.waiting with
  | none => .ok r.given
  | some (p, none) => .error (.missingValue p)
  | some (p, some v) => r.given.putOnce p v

/-- An option with its attached value, if any. -/
def option (r : Reading) (p : Parameter) (value : Option String) : Except UsageError Reading := do
  let given ← r.settle
  match value with
  | none => .ok ⟨given, some (p, none)⟩
  | some v => do .ok ⟨← given.putOnce p v, none⟩

/-- The option that fetches only once. -/
def once (r : Reading) : Except UsageError Reading := do
  let given ← r.settle
  if given.once then .error .repeated else .ok ⟨{ given with once := true }, none⟩

/-- The option that asks for help. -/
def help (r : Reading) : Except UsageError Reading := do
  let _ ← r.settle
  .error .help

/-- An option with a long name. -/
def long (r : Reading) (name : String) (value : Option String) : Except UsageError Reading :=
  match Parameter.ofName? name with
  | some p => r.option p value
  | none =>
    if name ≠ "once" ∧ name ≠ "help" then .error .unknownArgument
    else if value.isSome then .error .unneededValue
    else if name = "once" then r.once
    else r.help

/-- The options with one letter: `c` takes what follows as its value, with or without an equals
sign. -/
def short (r : Reading) : List Char → Except UsageError Reading
  | 'h' :: _ => r.help
  | ['c'] => r.option .config none
  | 'c' :: '=' :: v => r.option .config (some (.ofList v))
  | 'c' :: v => r.option .config (some (.ofList v))
  | _ => .error .unknownArgument

/-- A plain word, which only an option can wait for. -/
def plain (r : Reading) (s : String) : Except UsageError Reading :=
  match r.waiting with
  | some (p, none) => .ok { r with waiting := some (p, some s) }
  | _ => .error .unknownArgument

/-- Reads the words to the end. Nothing may follow the end of the options. -/
def finish (r : Reading) : List String → Except UsageError Arguments
  | [] => r.settle
  | s :: rest =>
    match Word.ofText s with
    | .endOfOptions => if rest = [] then r.settle else .error .unknownArgument
    | .long name value => do finish (← r.long name value) rest
    | .short letters => do finish (← r.short letters) rest
    | .plain s => do finish (← r.plain s) rest

end Reading

/-- Takes from the environment what the command line does not give. -/
def withEnvironment (env : String → Option String) (a : Arguments) : Except UsageError Arguments :=
  Parameter.all.foldlM (fun a p =>
    match env p.environmentName with
    | some v => if a.gives p then .ok a else a.put p v
    | none => .ok a) a

/-- What a command line, without the program's name, and an environment give. -/
def parse (env : String → Option String) (words : List String) : Except UsageError Arguments := do
  withEnvironment env (← ({} : Reading).finish words)

end Arguments

end StatusBoard
