import StatusBoard.Json.Draft

/-!
Reading a JSON text byte by byte. The reader keeps a stack of the open arrays and objects and what
it is in the middle of; each byte takes it one step further, so that reading is a left fold.
-/
namespace StatusBoard.Json

/-- What the characters of a text were given by. -/
inductive Glyph where
  | byte (b : UInt8)
  /-- An escaped code unit, in hexadecimal. -/
  | unit (u : Nat)
deriving DecidableEq, Repr

namespace Glyph

/-- Whether a code unit opens a surrogate pair. -/
def isLeading (u : Nat) : Bool := 0xd800 ≤ u && u < 0xdc00

/-- Whether a code unit closes a surrogate pair. -/
def isTrailing (u : Nat) : Bool := 0xdc00 ≤ u && u < 0xe000

/-- The bytes of a code point. -/
def encode (n : Nat) : List UInt8 :=
  String.utf8EncodeChar (Char.ofNat n)

/-- The bytes of a text; none if a surrogate stands alone. -/
def bytes? : List Glyph → Option (List UInt8)
  | [] => some []
  | .byte b :: r => (bytes? r).map (b :: ·)
  | .unit u :: .unit v :: r =>
    if isLeading u then
      if isTrailing v then
        (bytes? r).map (encode (0x10000 + (u - 0xd800) * 0x400 + (v - 0xdc00)) ++ ·)
      else none
    else if isTrailing u then none
    else (bytes? (.unit v :: r)).map (encode u ++ ·)
  | .unit u :: r =>
    if isLeading u || isTrailing u then none else (bytes? r).map (encode u ++ ·)

/-- The text, if its surrogates are paired and its bytes are UTF-8. -/
def text? (gs : List Glyph) : Option String := do
  String.fromUTF8? ⟨(← bytes? gs).toArray⟩

end Glyph

/-- An open array or object; items and members stand last first. -/
inductive Frame where
  | array (items : List Draft)
  | object (members : List (Option String × Draft))
  /-- An object whose last key waits for its value. -/
  | member (members : List (Option String × Draft)) (key : Option String)

/-- What may come next between two tokens. -/
inductive Due where
  | value
  | valueOrEnd
  | key
  | keyOrEnd
  | colon
  | separator
deriving DecidableEq, Repr

/-- Where in an escape a text stands: outside, after the backslash, or after some of the four
hexadecimal digits. -/
inductive Escape where
  | outside
  | opened
  | hex (count : Nat) (value : Nat)
deriving DecidableEq, Repr

/-- Where in a number literal the reader stands, named for what came last. -/
inductive NumeralPart where
  | sign
  | zero
  | whole
  | point
  | fraction
  | mark
  | markSign
  | power
deriving DecidableEq, Repr

/-- Whether a literal may end here. -/
def NumeralPart.mayEnd : NumeralPart → Bool
  | .zero | .whole | .fraction | .power => true
  | _ => false

/-- What the reader is in the middle of. -/
inductive Position where
  | between (due : Due)
  /-- A word whose remaining letters are given, and what it stands for. -/
  | word (rest : List UInt8) (meaning : Draft)
  /-- A text with what it holds so far, last first. -/
  | text (isKey : Bool) (held : List Glyph) (escape : Escape)
  | number (n : Numeral) (part : NumeralPart)

/-- A reader: still at it, done with the value, or stopped for good. -/
inductive Reader where
  | reading (frames : List Frame) (position : Position)
  | finished (root : Draft)
  | stopped (document : Document)

namespace Reader

/-- Before the first byte. -/
def start : Reader := .reading [] (.between .value)

/-- The value of the whole text when `d` is as far as the innermost one came. -/
def enclose : List Frame → Draft → Draft
  | [], d => d
  | .array items :: fs, d => enclose fs (.array (items.reverse ++ [d]) false)
  | .object ms :: fs, _ => enclose fs (.object ms.reverse false)
  | .member ms k :: fs, d => enclose fs (.object (ms.reverse ++ [(k, d)]) false)

/-- Stops with what was read so far. -/
def stop (frames : List Frame) : Reader :=
  .stopped ⟨enclose frames .broken, false⟩

/-- Puts a complete value in its place. -/
def settle : List Frame → Draft → Reader
  | [], d => .finished d
  | .array items :: fs, d => .reading (.array (d :: items) :: fs) (.between .separator)
  | .member ms k :: fs, d => .reading (.object ((k, d) :: ms) :: fs) (.between .separator)
  | .object ms :: fs, _ => stop (.object ms :: fs)

def isSpace (b : UInt8) : Bool :=
  b == 0x20 || b == 0x09 || b == 0x0a || b == 0x0d

def isDigit (b : UInt8) : Bool :=
  0x30 ≤ b && b ≤ 0x39

def digit (b : UInt8) : Nat :=
  b.toNat - 0x30

/-- The value of a hexadecimal digit. -/
def hexDigit? (b : UInt8) : Option Nat :=
  if isDigit b then some (digit b)
  else if 0x41 ≤ b && b ≤ 0x46 then some (b.toNat - 0x37)
  else if 0x61 ≤ b && b ≤ 0x66 then some (b.toNat - 0x57)
  else none

/-- The first byte of a value. -/
def openValue (fs : List Frame) (b : UInt8) : Reader :=
  if b == 0x5b then .reading (.array [] :: fs) (.between .valueOrEnd)
  else if b == 0x7b then .reading (.object [] :: fs) (.between .keyOrEnd)
  else if b == 0x22 then .reading fs (.text false [] .outside)
  else if b == 0x2d then .reading fs (.number ⟨true, [], none, none⟩ .sign)
  else if b == 0x30 then .reading fs (.number ⟨false, [0], none, none⟩ .zero)
  else if isDigit b then .reading fs (.number ⟨false, [digit b], none, none⟩ .whole)
  else if b == 0x6e then .reading fs (.word [0x75, 0x6c, 0x6c] .null)
  else if b == 0x74 then .reading fs (.word [0x72, 0x75, 0x65] (.bool true))
  else if b == 0x66 then .reading fs (.word [0x61, 0x6c, 0x73, 0x65] (.bool false))
  else stop fs

/-- A byte after an item or a member, or after the value itself. -/
def afterValue : List Frame → UInt8 → Reader
  | .array items :: fs, b =>
    if b == 0x2c then .reading (.array items :: fs) (.between .value)
    else if b == 0x5d then settle fs (.array items.reverse true)
    else stop (.array items :: fs)
  | .object ms :: fs, b =>
    if b == 0x2c then .reading (.object ms :: fs) (.between .key)
    else if b == 0x7d then settle fs (.object ms.reverse true)
    else stop (.object ms :: fs)
  | fs, _ => stop fs

/-- A byte that is not white space, between two tokens. -/
def dispatch (fs : List Frame) (due : Due) (b : UInt8) : Reader :=
  match due with
  | .value => openValue fs b
  | .valueOrEnd => if b == 0x5d then afterValue fs b else openValue fs b
  | .key => if b == 0x22 then .reading fs (.text true [] .outside) else stop fs
  | .keyOrEnd =>
    if b == 0x7d then afterValue fs b
    else if b == 0x22 then .reading fs (.text true [] .outside)
    else stop fs
  | .colon => if b == 0x3a then .reading fs (.between .value) else stop fs
  | .separator => afterValue fs b

/-- A byte between two tokens, or after the value. -/
def stepBetween : Reader → UInt8 → Reader
  | .reading fs (.between due), b =>
    if isSpace b then .reading fs (.between due) else dispatch fs due b
  | .finished d, b => if isSpace b then .finished d else .stopped ⟨d, false⟩
  | r, _ => r

/-- A complete text: a value, or the key of the open object. -/
def settleText (fs : List Frame) (isKey : Bool) (held : List Glyph) : Reader :=
  let s := Glyph.text? held.reverse
  if isKey then
    match fs with
    | .object ms :: fs => .reading (.member ms s :: fs) (.between .colon)
    | fs => stop fs
  else settle fs (.string s)

/-- The byte that a one-letter escape stands for. -/
def shortEscape? (b : UInt8) : Option UInt8 :=
  if b == 0x22 || b == 0x5c || b == 0x2f then some b
  else if b == 0x62 then some 0x08
  else if b == 0x66 then some 0x0c
  else if b == 0x6e then some 0x0a
  else if b == 0x72 then some 0x0d
  else if b == 0x74 then some 0x09
  else none

/-- A byte inside a text. -/
def stepText (fs : List Frame) (isKey : Bool) (held : List Glyph) (escape : Escape) (b : UInt8) :
    Reader :=
  match escape with
  | .outside =>
    if b == 0x22 then settleText fs isKey held
    else if b == 0x5c then .reading fs (.text isKey held .opened)
    else if b < 0x20 then stop fs
    else .reading fs (.text isKey (.byte b :: held) .outside)
  | .opened =>
    if b == 0x75 then .reading fs (.text isKey held (.hex 0 0))
    else match shortEscape? b with
      | some c => .reading fs (.text isKey (.byte c :: held) .outside)
      | none => stop fs
  | .hex count value =>
    match hexDigit? b with
    | none => stop fs
    | some d =>
      if count = 3 then .reading fs (.text isKey (.unit (16 * value + d) :: held) .outside)
      else .reading fs (.text isKey held (.hex (count + 1) (16 * value + d)))

/-- The literal after one more byte, if that byte belongs to it. -/
def extend? (n : Numeral) (part : NumeralPart) (b : UInt8) : Option (Numeral × NumeralPart) :=
  let toMark : Option (Numeral × NumeralPart) :=
    if b == 0x65 || b == 0x45 then some (⟨n.negative, n.whole, n.fraction, some (false, [])⟩, .mark)
    else none
  let toPoint : Option (Numeral × NumeralPart) :=
    if b == 0x2e then some (⟨n.negative, n.whole, some [], none⟩, .point) else toMark
  match part with
  | .sign =>
    if isDigit b then
      some (⟨n.negative, [digit b], none, none⟩, if b == 0x30 then .zero else .whole)
    else none
  | .zero => toPoint
  | .whole =>
    if isDigit b then some (⟨n.negative, n.whole ++ [digit b], none, none⟩, .whole) else toPoint
  | .point | .fraction =>
    if isDigit b then
      some (⟨n.negative, n.whole, n.fraction.map (· ++ [digit b]), none⟩, .fraction)
    else if part = .fraction then toMark
    else none
  | .mark | .markSign | .power =>
    if isDigit b then
      some (⟨n.negative, n.whole, n.fraction, n.exponent.map fun e => (e.1, e.2 ++ [digit b])⟩,
        .power)
    else if part = .mark && (b == 0x2b || b == 0x2d) then
      some (⟨n.negative, n.whole, n.fraction, some (b == 0x2d, [])⟩, .markSign)
    else none

/-- A byte inside a number literal or just after it. A digit cannot follow a leading zero. -/
def stepNumber (fs : List Frame) (n : Numeral) (part : NumeralPart) (b : UInt8) : Reader :=
  match extend? n part b with
  | some (n, part) => .reading fs (.number n part)
  | none =>
    if part.mayEnd && !(part = .zero && isDigit b) then stepBetween (settle fs (.number n)) b
    else stop fs

/-- One byte. -/
def step (r : Reader) (b : UInt8) : Reader :=
  match r with
  | .reading fs (.word rest meaning) =>
    match rest with
    | [] => stepBetween (settle fs meaning) b
    | [c] => if b == c then settle fs meaning else stop fs
    | c :: rest => if b == c then .reading fs (.word rest meaning) else stop fs
  | .reading fs (.text isKey held escape) => stepText fs isKey held escape b
  | .reading fs (.number n part) => stepNumber fs n part b
  | r => stepBetween r b

/-- What has been read when the text ends. -/
def document : Reader → Document
  | .finished d => ⟨d, true⟩
  | .stopped doc => doc
  | .reading fs (.number n part) =>
    if part.mayEnd then ⟨enclose fs (.number n), fs.isEmpty⟩ else ⟨enclose fs .broken, false⟩
  | .reading fs _ => ⟨enclose fs .broken, false⟩

end Reader

/-- Reads a text. -/
def Document.read (bytes : List UInt8) : Document :=
  (bytes.foldl Reader.step Reader.start).document

end StatusBoard.Json
