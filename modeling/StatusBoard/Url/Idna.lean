import StatusBoard.Unicode.Composition
import StatusBoard.Unicode.Direction
import StatusBoard.Unicode.Joining
import StatusBoard.Unicode.Mark
import StatusBoard.Unicode.NameMapping.Basic
import StatusBoard.Url.Punycode

/-!
Domain names in ASCII form. A name is mapped to its plain characters and composed, then each of its
labels is checked and, if it is not ASCII, written in ASCII behind a mark of its own. No delimiter
or control may remain.
-/
namespace StatusBoard.Url.Idna

open StatusBoard.Unicode

/-- ASCII characters that no domain name may hold. -/
def isDenied (c : Char) : Bool :=
  c.toNat ≤ 0x20 || c.toNat == 0x7f ||
    c ∈ ['#', '%', '/', ':', '<', '>', '?', '@', '[', '\\', ']', '^', '\x60', '\x7b', '|', '\x7d']

def isAscii (c : Char) : Bool := c.toNat < 0x80

/-- The mark of a label in ASCII form. -/
def aceMark : List Char := "xn--".toList

/-- A label as it is meant: one in ASCII form is read. It has to be what one gets by writing it, so
it holds other characters and is mapped and composed already. -/
def meant? (label : List Char) : Option (List Char) :=
  if aceMark.isPrefixOf label then do
    let u ← Punycode.decode? (label.drop aceMark.length)
    let mapped ← NameMapping.meaningOfAll? u
    if u.all isAscii ∨ Composition.composed mapped ≠ u then none else some u
  else some label

/-- Whether a label may stand in a name, directions aside. -/
def isLabel (label : List Char) : Bool :=
  label.all (fun c => !(isAscii c && isDenied c)) &&
    !(label.head?.any Mark.isMark) && Joining.areAllowed [] label

/-- A label in ASCII form. -/
def written (label : List Char) : List Char :=
  if label.all isAscii then label else aceMark ++ Punycode.encode label

/-- The ASCII form of a name with labels of any characters. -/
def ofInternational? (cs : List Char) : Option (List Char) := do
  let mapped ← NameMapping.meaningOfAll? cs
  let labels ← ((Composition.composed mapped).splitOn '.').mapM meant?
  if labels.all isLabel ∧ Direction.areUniform labels then
    some (['.'].intercalate (labels.map written))
  else none

/-- Whether all labels are plain ASCII, which only lose their case. -/
def isPlain (cs : List Char) : Bool :=
  cs.all isAscii && (cs.splitOn '.').all fun label => !aceMark.isPrefixOf label

/-- The ASCII form of a name given by the bytes of its UTF-8 form. -/
def toAscii? (bytes : List UInt8) : Option (List Char) := do
  let s ← String.fromUTF8? ⟨bytes.toArray⟩
  let cs := s.toList.map Char.toLower
  if isPlain cs then if cs.any isDenied then none else some cs
  else ofInternational? s.toList

end StatusBoard.Url.Idna
