import StatusBoard.Html.Node
import StatusBoard.Proofs.Html.Entities

/-!
The tags in a text, found by a scan that knows nothing of how the text was written. A tag runs from
an opening angle bracket to the next closing one outside of double quotes, and white space outside
of quotes separates its words: its name, behind a slash in an end tag, and its attributes, each a
name and, behind the equals sign, a value.
-/
namespace StatusBoard.Html

/-- A tag; the values of its attributes stand as they are written between the quotes. -/
structure Tag where
  closing : Bool
  name : String
  attributes : List (String × String)
deriving DecidableEq, Repr

/-- A tag without the values of its attributes. -/
structure Outline where
  closing : Bool
  name : String
  attributes : List String
deriving DecidableEq, Repr

namespace Tag

def outline (t : Tag) : Outline := ⟨t.closing, t.name, t.attributes.map (·.1)⟩

def attributeOf (word : List Char) : String × String :=
  (String.ofList (word.takeWhile (· ≠ '=')),
    String.ofList (((word.dropWhile (· ≠ '=')).drop 1).filter (· ≠ '"')))

def ofWords : List (List Char) → Tag
  | ('/' :: name) :: attributes => ⟨true, String.ofList name, attributes.map attributeOf⟩
  | name :: attributes => ⟨false, String.ofList name, attributes.map attributeOf⟩
  | [] => ⟨false, "", []⟩

end Tag

namespace Outline

/-- Tags without an end tag. -/
def voids : List String := ["meta", "link", "!DOCTYPE"]

/-- Whether the tags close all that they open and all that is open before, the innermost first. -/
def nests : List String → List Outline → Bool
  | opened, [] => opened.isEmpty
  | opened, t :: ts =>
    if t.closing then
      match opened with
      | name :: opened => t.name == name && nests opened ts
      | [] => false
    else if t.name ∈ voids then nests opened ts
    else nests (t.name :: opened) ts

/-- Properly nested tags. -/
def Nested (ts : List Outline) : Prop := nests [] ts = true

theorem nests_start {name : String} (h : name ∉ voids) (attributes : List String)
    (opened : List String) (ts : List Outline) :
    nests opened (⟨false, name, attributes⟩ :: ts) = nests (name :: opened) ts := by
  conv => lhs; unfold nests
  rw [if_neg Bool.false_ne_true, if_neg h]

theorem nests_void {name : String} (h : name ∈ voids) (attributes : List String)
    (opened : List String) (ts : List Outline) :
    nests opened (⟨false, name, attributes⟩ :: ts) = nests opened ts := by
  conv => lhs; unfold nests
  rw [if_neg Bool.false_ne_true, if_pos h]

theorem nests_end (name : String) (opened : List String) (ts : List Outline) :
    nests (name :: opened) (⟨true, name, []⟩ :: ts) = nests opened ts := by
  conv => lhs; unfold nests
  simp

end Outline

/-- Where in a text the scanner stands. -/
inductive Mode where
  | outside
  /-- In a tag, of which some words are complete and one has begun. -/
  | inside (words : List (List Char)) (word : List Char) (quoted : Bool)

structure Scanner where
  tags : List Tag
  mode : Mode

namespace Scanner

def isSpace (c : Char) : Bool := c ∈ [' ', '\t', '\n', '\x0c', '\r']

def step (x : Scanner) (c : Char) : Scanner :=
  match x.mode with
  | .outside => if c = '<' then ⟨x.tags, .inside [] [] false⟩ else x
  | .inside words word true => ⟨x.tags, .inside words (word ++ [c]) (c ≠ '"')⟩
  | .inside words word false =>
    if c = '>' then ⟨x.tags ++ [.ofWords (words ++ [word])], .outside⟩
    else if isSpace c then ⟨x.tags, .inside (words ++ [word]) [] false⟩
    else ⟨x.tags, .inside words (word ++ [c]) (c = '"')⟩

end Scanner

/-- The tags of a text. -/
def scan (cs : List Char) : Scanner := cs.foldl Scanner.step ⟨[], .outside⟩

/-- From outside of tags, the text has exactly these tags and ends outside again. -/
def Scans (cs : List Char) (ts : List Tag) : Prop :=
  ∀ before, cs.foldl Scanner.step ⟨before, .outside⟩ = ⟨before ++ ts, .outside⟩

theorem scan_eq_of_scans {cs : List Char} {ts : List Tag} (h : Scans cs ts) :
    scan cs = ⟨ts, .outside⟩ := h []

theorem scans_nil : Scans [] [] := by
  intro before
  rw [List.append_nil]
  rfl

theorem Scans.append {cs ds : List Char} {ts us : List Tag} (hcs : Scans cs ts)
    (hds : Scans ds us) : Scans (cs ++ ds) (ts ++ us) := by
  intro before
  rw [List.foldl_append, hcs, hds, List.append_assoc]

/-- A text in which no tag opens. -/
theorem scans_of_not_open {cs : List Char} (h : ∀ c ∈ cs, c ≠ '<') : Scans cs [] := by
  intro before
  rw [List.append_nil]
  induction cs with
  | nil => rfl
  | cons c rest ih =>
    obtain ⟨hc, hrest⟩ := List.forall_mem_cons.mp h
    have hstep : Scanner.step ⟨before, .outside⟩ c = ⟨before, .outside⟩ := if_neg hc
    rw [List.foldl_cons, hstep, ih hrest]

theorem scans_escape (cs : List Char) : Scans (escape cs) [] :=
  scans_of_not_open fun c hc => ((escaped_escape cs).bare c hc).1

section Tags

variable (ts : List Tag) (words : List (List Char)) (word : List Char)

/-- Letters, digits and hyphens, of which the names of tags and attributes are made. -/
def isNameChar (c : Char) : Bool := c.isAlphanum || c == '-'

def IsName (s : String) : Prop := s.toList.all isNameChar = true

instance (s : String) : Decidable (IsName s) :=
  inferInstanceAs (Decidable (_ = true))

theorem IsName.isNameChar {s : String} (h : IsName s) {c : Char} (hc : c ∈ s.toList) :
    isNameChar c = true :=
  List.all_eq_true.mp h c hc

/-- The characters that mean something in a tag. -/
theorem not_special_of_isNameChar {c : Char} (h : isNameChar c = true) :
    c ≠ '>' ∧ c ≠ '"' ∧ c ≠ '=' ∧ c ≠ '/' ∧ Scanner.isSpace c = false := by
  have hspecial : ['>', '"', '=', '/', ' ', '\t', '\n', '\x0c', '\r'].all (!isNameChar ·) := by
    decide
  have hne : ∀ d ∈ ['>', '"', '=', '/', ' ', '\t', '\n', '\x0c', '\r'], c ≠ d := by
    rintro d hd rfl
    have hnot := List.all_eq_true.mp hspecial c hd
    rw [h] at hnot
    exact Bool.noConfusion hnot
  have hspace : Scanner.isSpace c = false := by
    refine decide_eq_false fun hc => ?_
    exact hne c (List.mem_append_right ['>', '"', '=', '/'] hc) rfl
  exact ⟨hne _ (by decide), hne _ (by decide), hne _ (by decide), hne _ (by decide), hspace⟩

/-- Characters that go on with a word, outside of quotes. -/
theorem foldl_word {cs : List Char}
    (h : ∀ c ∈ cs, c ≠ '>' ∧ c ≠ '"' ∧ Scanner.isSpace c = false) :
    cs.foldl Scanner.step ⟨ts, .inside words word false⟩ =
      ⟨ts, .inside words (word ++ cs) false⟩ := by
  induction cs generalizing word with
  | nil => rw [List.append_nil]; rfl
  | cons c rest ih =>
    obtain ⟨⟨hclose, hquote, hspace⟩, hrest⟩ := List.forall_mem_cons.mp h
    have hstep : Scanner.step ⟨ts, .inside words word false⟩ c =
        ⟨ts, .inside words (word ++ [c]) false⟩ := by
      simp only [Scanner.step, hclose, hquote, hspace, if_false, Bool.false_eq_true, decide_false]
    rw [List.foldl_cons, hstep, ih _ hrest, List.append_assoc, List.singleton_append]

/-- Characters in quotes. -/
theorem foldl_quoted {cs : List Char} (h : ∀ c ∈ cs, c ≠ '"') :
    cs.foldl Scanner.step ⟨ts, .inside words word true⟩ =
      ⟨ts, .inside words (word ++ cs) true⟩ := by
  induction cs generalizing word with
  | nil => rw [List.append_nil]; rfl
  | cons c rest ih =>
    obtain ⟨hquote, hrest⟩ := List.forall_mem_cons.mp h
    have hstep : Scanner.step ⟨ts, .inside words word true⟩ c =
        ⟨ts, .inside words (word ++ [c]) true⟩ := by
      simp only [Scanner.step, hquote, ne_eq, not_false_eq_true, decide_true]
    rw [List.foldl_cons, hstep, ih _ hrest, List.append_assoc, List.singleton_append]

theorem foldl_name {name : String} (h : IsName name) :
    name.toList.foldl Scanner.step ⟨ts, .inside words word false⟩ =
      ⟨ts, .inside words (word ++ name.toList) false⟩ :=
  foldl_word ts words word fun c hc => by
    obtain ⟨hclose, hquote, -, -, hspace⟩ := not_special_of_isNameChar (h.isNameChar hc)
    exact ⟨hclose, hquote, hspace⟩

/-- The word of a written attribute. -/
def attributeWord (a : String × String) : List Char :=
  a.1.toList ++ ['=', '"'] ++ escape a.2.toList ++ ['"']

theorem foldl_attribute (a : String × String) (h : IsName a.1) :
    (Node.writeAttribute a).foldl Scanner.step ⟨ts, .inside words word false⟩ =
      ⟨ts, .inside (words ++ [word]) (attributeWord a) false⟩ := by
  have hvalue : ∀ c ∈ escape a.2.toList, c ≠ '"' := fun c hc =>
    ((escaped_escape _).bare c hc).2.2.1
  have hspace : [' '].foldl Scanner.step ⟨ts, .inside words word false⟩ =
      ⟨ts, .inside (words ++ [word]) [] false⟩ := rfl
  have hopen : ∀ w, ['=', '"'].foldl Scanner.step ⟨ts, .inside (words ++ [word]) w false⟩ =
      ⟨ts, .inside (words ++ [word]) (w ++ ['='] ++ ['"']) true⟩ := fun _ => rfl
  have hclose : ∀ w, ['"'].foldl Scanner.step ⟨ts, .inside (words ++ [word]) w true⟩ =
      ⟨ts, .inside (words ++ [word]) (w ++ ['"']) false⟩ := fun _ => rfl
  rw [Node.writeAttribute, List.foldl_append, List.foldl_append, List.foldl_append,
    List.foldl_append, hspace, foldl_name _ _ _ h, hopen, foldl_quoted _ _ _ hvalue, hclose]
  simp only [attributeWord, List.nil_append, List.append_assoc, List.singleton_append]

theorem foldl_attributes {as : List (String × String)} (h : ∀ a ∈ as, IsName a.1) :
    ∃ words' word',
      (as.flatMap Node.writeAttribute).foldl Scanner.step ⟨ts, .inside words word false⟩ =
        ⟨ts, .inside words' word' false⟩ ∧
      words' ++ [word'] = words ++ [word] ++ as.map attributeWord := by
  induction as generalizing words word with
  | nil => exact ⟨words, word, rfl, (List.append_nil _).symm⟩
  | cons a rest ih =>
    obtain ⟨ha, hrest⟩ := List.forall_mem_cons.mp h
    obtain ⟨words', word', hfold, hwords⟩ := ih (words ++ [word]) (attributeWord a) hrest
    refine ⟨words', word', ?_, ?_⟩
    · rw [List.flatMap_cons, List.foldl_append, foldl_attribute ts words word a ha, hfold]
    · rw [hwords, List.append_assoc _ [attributeWord a], List.map_cons, List.singleton_append]

/-- An attribute keeps its name, and its value as it is escaped. -/
theorem attributeOf_attributeWord (a : String × String) (h : IsName a.1) :
    Tag.attributeOf (attributeWord a) = (a.1, escapeText a.2) := by
  have hname : ∀ c ∈ a.1.toList, decide (c ≠ '=') = true := fun c hc =>
    decide_eq_true (not_special_of_isNameChar (h.isNameChar hc)).2.2.1
  have hvalue : ∀ c ∈ escape a.2.toList, decide (c ≠ '"') = true := fun c hc =>
    decide_eq_true ((escaped_escape _).bare c hc).2.2.1
  have hword : attributeWord a = a.1.toList ++ (['=', '"'] ++ escape a.2.toList ++ ['"']) := by
    simp only [attributeWord, List.append_assoc]
  have htake : (attributeWord a).takeWhile (· ≠ '=') = a.1.toList := by
    rw [hword, List.takeWhile_append_of_pos hname]
    exact List.append_nil _
  have hdrop : (attributeWord a).dropWhile (· ≠ '=') =
      ['=', '"'] ++ escape a.2.toList ++ ['"'] := by
    rw [hword, List.dropWhile_append_of_pos hname]
    rfl
  have hbetween : (['"'] ++ escape a.2.toList ++ ['"']).filter (· ≠ '"') = escape a.2.toList := by
    rw [List.filter_append, List.filter_append, List.filter_eq_self.mpr hvalue]
    exact List.append_nil _
  have hrest : (['=', '"'] ++ escape a.2.toList ++ ['"']).drop 1 =
      ['"'] ++ escape a.2.toList ++ ['"'] := rfl
  rw [Tag.attributeOf, htake, hdrop, hrest, hbetween, String.ofList_toList, escapeText]

theorem ofWords_start {name : List Char} (h : '/' ∉ name) (attributes : List (List Char)) :
    Tag.ofWords (name :: attributes) =
      ⟨false, String.ofList name, attributes.map Tag.attributeOf⟩ := by
  rw [Tag.ofWords]
  rintro rest rfl
  exact h List.mem_cons_self

/-- The attributes as a scan finds them. -/
def written (attributes : List (String × String)) : List (String × String) :=
  attributes.map fun a => (a.1, escapeText a.2)

/-- A start tag as written. -/
theorem scans_writeTag {name : String} {as : List (String × String)} (hname : IsName name)
    (has : ∀ a ∈ as, IsName a.1) : Scans (Node.writeTag name as) [⟨false, name, written as⟩] := by
  intro before
  have hopen : ['<'].foldl Scanner.step ⟨before, .outside⟩ = ⟨before, .inside [] [] false⟩ := rfl
  obtain ⟨words, word, hfold, hwords⟩ := foldl_attributes before [] name.toList has
  have hclose : ['>'].foldl Scanner.step ⟨before, .inside words word false⟩ =
      ⟨before ++ [.ofWords (words ++ [word])], .outside⟩ := rfl
  have hslash : '/' ∉ name.toList := fun h =>
    absurd rfl (not_special_of_isNameChar (hname.isNameChar h)).2.2.2.1
  have hattributes : (as.map attributeWord).map Tag.attributeOf = written as := by
    rw [List.map_map]
    exact List.map_congr_left fun a ha => attributeOf_attributeWord a (has a ha)
  have htag : Tag.ofWords (name.toList :: as.map attributeWord) = ⟨false, name, written as⟩ := by
    rw [ofWords_start hslash, hattributes, String.ofList_toList]
  rw [Node.writeTag, List.foldl_append, List.foldl_append, List.foldl_append, hopen,
    foldl_name _ _ _ hname, List.nil_append, hfold, hclose, hwords]
  rw [List.nil_append, List.singleton_append, htag]

/-- An end tag as written. -/
theorem scans_endTag {name : String} (hname : IsName name) :
    Scans (['<', '/'] ++ name.toList ++ ['>']) [⟨true, name, []⟩] := by
  intro before
  have hopen : ['<', '/'].foldl Scanner.step ⟨before, .outside⟩ =
      ⟨before, .inside [] ['/'] false⟩ := rfl
  have hclose : ['>'].foldl Scanner.step ⟨before, .inside [] (['/'] ++ name.toList) false⟩ =
      ⟨before ++ [⟨true, String.ofList name.toList, []⟩], .outside⟩ := rfl
  rw [List.foldl_append, List.foldl_append, hopen, foldl_name _ _ _ hname, hclose,
    String.ofList_toList]

end Tags

end StatusBoard.Html
