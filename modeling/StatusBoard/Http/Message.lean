import StatusBoard.Http.Header

/-!
Messages on the wire: a head of lines, an empty line, and a body. The head says where the body ends.
-/
namespace StatusBoard.Http

/-- The head of a message: its first line and its fields. -/
structure Head where
  line : String
  headers : Headers
deriving DecidableEq, Repr

/-- Where a body ends. -/
inductive Framing where
  | sized (n : Nat)
  | chunked
  | untilEnd
deriving DecidableEq, Repr

/-- Splits a text before and after the first end of a line; none if there is none yet. -/
def splitLine? : List UInt8 → Option (List UInt8 × List UInt8)
  | 13 :: 10 :: rest => some ([], rest)
  | b :: rest => (splitLine? rest).map fun p => (b :: p.1, p.2)
  | [] => none

/-- The lines up to the first empty one, and what follows it; none if it has not come yet. -/
def splitHead? : Nat → List UInt8 → Option (List (List UInt8) × List UInt8)
  | 0, _ => none
  | most + 1, bytes =>
    match splitLine? bytes with
    | none => none
    | some ([], rest) => some ([], rest)
    | some (line, rest) => (splitHead? most rest).map fun p => (line :: p.1, p.2)

/-- The text of some bytes; the empty text if they are no UTF-8. -/
def textOf (bytes : List UInt8) : String :=
  (String.fromUTF8? ⟨bytes.toArray⟩).getD ""

/-- A field from its line. -/
def fieldOf (line : String) : String × String :=
  let name := line.toList.takeWhile (· != ':')
  (.ofList name, bare (.ofList (line.toList.drop (name.length + 1))))

/-- The head of a message and what follows it; none if there is more of the head to come. -/
def head? (bytes : List UInt8) : Option (Head × List UInt8) :=
  match splitHead? bytes.length bytes with
  | some (line :: fields, rest) => some (⟨textOf line, fields.map (fieldOf ∘ textOf)⟩, rest)
  | _ => none

/-- Where the body after a head ends. -/
def Head.framing (h : Head) : Framing :=
  if (h.headers.value? "transfer-encoding").any fun v => Text.asciiLower v = "chunked" then .chunked
  else match (h.headers.value? "content-length").bind String.toNat? with
    | some n => .sized n
    | none => .untilEnd

/-- A number in hexadecimal digits, up to the first other character. -/
def hexNumber (s : String) : Nat :=
  (s.toList.takeWhile fun c => c.isDigit || c.toLower ∈ ['a', 'b', 'c', 'd', 'e', 'f']).foldl
    (fun n c => 16 * n + digit c) 0
where
  digit (c : Char) : Nat :=
    if c.isDigit then c.toNat - '0'.toNat else c.toLower.toNat - 'a'.toNat + 10

/-- A body from its chunks, at most as many as given; none if the last one has not come. -/
def joinChunks? : Nat → List UInt8 → Option (List UInt8)
  | 0, _ => none
  | most + 1, bytes =>
    match splitLine? bytes with
    | none => none
    | some (line, rest) =>
      match hexNumber (textOf line) with
      | 0 => some []
      | n =>
        if rest.length < n + 2 then none
        else (joinChunks? most (rest.drop (n + 2))).map fun more => rest.take n ++ more

/-- The body of a message; none if there is more of it to come. -/
def body? (framing : Framing) (hasEnded : Bool) (bytes : List UInt8) : Option (List UInt8) :=
  match framing with
  | .sized n => if n ≤ bytes.length then some (bytes.take n) else none
  | .chunked => joinChunks? bytes.length bytes
  | .untilEnd => if hasEnded then some bytes else none

/-- The text of a head. -/
def Head.text (h : Head) : String :=
  h.line ++ "\r\n" ++ String.join (h.headers.map fun f => f.1 ++ ": " ++ f.2 ++ "\r\n") ++ "\r\n"

end StatusBoard.Http
