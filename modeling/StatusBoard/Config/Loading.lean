import StatusBoard.Config.Decoding
import StatusBoard.Config.Validation

/-!
Taking the configuration from a file. The file has to be there, to be UTF-8, to be TOML of the
right shape and, when it is loaded for use, to violate no check; the first of these that fails is
the error.
-/
namespace StatusBoard

/-- Why a file gives no text. -/
inductive FileFault where
  | notFound
  | isDirectory
  /-- The bytes are not UTF-8. -/
  | notText
deriving DecidableEq, Repr

/-- Why there is no configuration. -/
inductive ConfigError where
  | file (f : FileFault)
  | shape (m : Mismatch)
  | violated (vs : List Violation)
deriving DecidableEq, Repr

namespace FileFault

def message : FileFault → String
  | .notFound => "No such file or directory"
  | .isDirectory => "Is a directory"
  | .notText => "stream did not contain valid UTF-8"

end FileFault

namespace ConfigError

def message : ConfigError → String
  | .file f => "IO error: " ++ f.message
  | .shape m => "Parse error: " ++ m.message?.getD "TOML parse error"
  | .violated vs => Violation.summary vs

end ConfigError

/-- The content of a file, or why there is none. -/
abbrev FileContent := Except FileFault (List UInt8)

namespace FileContent

/-- The content as a text. -/
def text : FileContent → Except FileFault String
  | .error f => .error f
  | .ok bytes =>
    match String.fromUTF8? (.mk bytes.toArray) with
    | none => .error .notText
    | some s => .ok s

end FileContent

namespace Config

/-- The configuration in a file, unchecked: overrides may still come. -/
def read (file : FileContent) : Except ConfigError Config :=
  match file.text with
  | .error f => .error (.file f)
  | .ok s => (parse s).mapError .shape

/-- A configuration that violates no check. -/
def checked (c : Config) : Except ConfigError Config :=
  match c.validate with
  | .error vs => .error (.violated vs)
  | .ok () => .ok c

/-- The configuration in a file, checked. -/
def load (file : FileContent) : Except ConfigError Config := do
  checked (← read file)

end Config

end StatusBoard
