import StatusBoard.Proofs.Html.Markup

/-!
Markup tells what was written. An escaped character can be read back, and so can a tag with its
attributes, whatever comes after them; hence trees with the same markup hold the same elements and
the same characters in the same places, however their texts are cut into pieces.
-/
namespace StatusBoard.Html

section Characters

theorem escapeChar_append_inj {c d : Char} {r s : List Char}
    (h : escapeChar c ++ r = escapeChar d ++ s) : c = d ∧ r = s := by
  have hread := congrArg unescape h
  rw [unescape_escapeChar_append, unescape_escapeChar_append] at hread
  obtain rfl : c = d := (List.cons.inj hread).1
  exact ⟨rfl, List.append_cancel_left h⟩

/-- The spelling of a character is not empty and does not open a tag. -/
theorem exists_head_escapeChar (c : Char) :
    ∃ d rest, escapeChar c = d :: rest ∧ d ≠ '<' := by
  cases h : escapeChar c with
  | nil =>
    have hread := unescape_escapeChar_append c []
    rw [h] at hread
    exact nomatch hread
  | cons d rest =>
    have hmem : d ∈ escape [c] := by
      rw [escape, List.flatMap_singleton, h]
      exact List.mem_cons_self
    exact ⟨d, rest, rfl, ((escaped_escape [c]).bare d hmem).1⟩

end Characters

section Tags

/-- A run of characters of one kind ends where the first character of another kind stands. -/
theorem eq_of_append_cons {p : Char → Bool} {as bs : List Char} {c d : Char} {r s : List Char}
    (has : ∀ a ∈ as, p a = true) (hbs : ∀ b ∈ bs, p b = true) (hc : p c = false)
    (hd : p d = false) (h : as ++ c :: r = bs ++ d :: s) : as = bs ∧ c :: r = d :: s := by
  have hrun : as = bs := by
    have htake := congrArg (List.takeWhile p) h
    rwa [List.takeWhile_append_of_pos has, List.takeWhile_append_of_pos hbs,
      List.takeWhile_cons_of_neg (by rw [hc]; exact Bool.false_ne_true),
      List.takeWhile_cons_of_neg (by rw [hd]; exact Bool.false_ne_true),
      List.append_nil, List.append_nil] at htake
  subst hrun
  exact ⟨rfl, List.append_cancel_left h⟩

open Node (writeAttribute writeTag)

theorem writeAttribute_append (a : String × String) (r : List Char) :
    writeAttribute a ++ r =
      ' ' :: (a.1.toList ++ '=' :: ('"' :: (escape a.2.toList ++ '"' :: r))) := by
  simp only [writeAttribute, List.append_assoc, List.cons_append, List.nil_append]

theorem writeTag_append (name : String) (as : List (String × String)) (r : List Char) :
    writeTag name as ++ r = '<' :: (name.toList ++ (as.flatMap writeAttribute ++ '>' :: r)) := by
  simp only [writeTag, List.append_assoc, List.cons_append, List.nil_append]

theorem writeAttribute_append_inj {a b : String × String} (ha : IsName a.1) (hb : IsName b.1)
    {r s : List Char} (h : writeAttribute a ++ r = writeAttribute b ++ s) : a = b ∧ r = s := by
  have hequals : isNameChar '=' = false := by decide
  rw [writeAttribute_append, writeAttribute_append] at h
  obtain ⟨hname, hvalue⟩ := eq_of_append_cons (fun _ => ha.isNameChar) (fun _ => hb.isNameChar)
    hequals hequals (List.cons.inj h).2
  have hunquoted (t : List Char) : ∀ c ∈ escape t, decide (c ≠ '"') = true := fun c hc =>
    decide_eq_true ((escaped_escape t).bare c hc).2.2.1
  obtain ⟨htext, hrest⟩ := eq_of_append_cons (hunquoted _) (hunquoted _) rfl rfl
    (List.cons.inj (List.cons.inj hvalue).2).2
  exact ⟨Prod.ext (String.toList_injective hname) (String.toList_injective (escape_inj htext)),
    (List.cons.inj hrest).2⟩

/-- What follows the name in a tag. -/
theorem exists_head_attributes (as : List (String × String)) (r : List Char) :
    ∃ c rest, as.flatMap writeAttribute ++ '>' :: r = c :: rest ∧ isNameChar c = false ∧
      c ≠ '/' := by
  cases as with
  | nil => exact ⟨'>', r, rfl, by decide, by decide⟩
  | cons a as =>
    have hcons : (a :: as).flatMap writeAttribute ++ '>' :: r = ' ' :: (a.1.toList ++ '=' :: ('"' ::
        (escape a.2.toList ++ '"' :: (as.flatMap writeAttribute ++ '>' :: r)))) := by
      rw [List.flatMap_cons, List.append_assoc, writeAttribute_append]
    exact ⟨' ', _, hcons, by decide, by decide⟩

theorem attributes_append_inj {as bs : List (String × String)} (has : ∀ a ∈ as, IsName a.1)
    (hbs : ∀ b ∈ bs, IsName b.1) {r s : List Char}
    (h : as.flatMap writeAttribute ++ '>' :: r = bs.flatMap writeAttribute ++ '>' :: s) :
    as = bs ∧ r = s := by
  have hspace : ' ' ≠ '>' := by decide
  induction as generalizing bs with
  | nil =>
    cases bs with
    | nil => exact ⟨rfl, (List.cons.inj h).2⟩
    | cons b bs =>
      rw [List.flatMap_cons, List.append_assoc, writeAttribute_append] at h
      exact absurd (List.cons.inj h).1.symm hspace
  | cons a as ih =>
    cases bs with
    | nil =>
      rw [List.flatMap_cons, List.append_assoc, writeAttribute_append] at h
      exact absurd (List.cons.inj h).1 hspace
    | cons b bs =>
      obtain ⟨ha, has'⟩ := List.forall_mem_cons.mp has
      obtain ⟨hb, hbs'⟩ := List.forall_mem_cons.mp hbs
      rw [List.flatMap_cons, List.flatMap_cons, List.append_assoc, List.append_assoc] at h
      obtain ⟨rfl, hrest⟩ := writeAttribute_append_inj ha hb h
      obtain ⟨rfl, htail⟩ := ih has' hbs' hrest
      exact ⟨rfl, htail⟩

theorem writeTag_append_inj {name name' : String} {as bs : List (String × String)}
    (hname : IsName name) (hname' : IsName name') (has : ∀ a ∈ as, IsName a.1)
    (hbs : ∀ b ∈ bs, IsName b.1) {r s : List Char}
    (h : writeTag name as ++ r = writeTag name' bs ++ s) : name = name' ∧ as = bs ∧ r = s := by
  rw [writeTag_append, writeTag_append] at h
  obtain ⟨c, rest, hc, hstop, -⟩ := exists_head_attributes as r
  obtain ⟨d, rest', hd, hstop', -⟩ := exists_head_attributes bs s
  have hinner := (List.cons.inj h).2
  rw [hc, hd] at hinner
  obtain ⟨heq, hattributes⟩ := eq_of_append_cons (fun _ => hname.isNameChar)
    (fun _ => hname'.isNameChar) hstop hstop' hinner
  rw [← hc, ← hd] at hattributes
  obtain ⟨rfl, htail⟩ := attributes_append_inj has hbs hattributes
  exact ⟨String.toList_injective heq, rfl, htail⟩

end Tags

/-- What markup says: characters, and elements around more of the same. -/
inductive Content where
  | char (c : Char)
  | element (name : String) (attributes : List (String × String)) (children : List Content)

namespace Content

mutual

def write : Content → List Char
  | .char c => escapeChar c
  | .element name attributes children =>
    Node.writeTag name attributes ++
      if name ∈ Outline.voids then [] else writeAll children ++ ['<', '/'] ++ name.toList ++ ['>']

def writeAll : List Content → List Char
  | [] => []
  | t :: ts => write t ++ writeAll ts

end

mutual

/-- Names are names, and an element without an end tag is empty. -/
def Proper : Content → Prop
  | .char _ => True
  | .element name attributes children =>
    IsName name ∧ (∀ a ∈ attributes, IsName a.1) ∧ (name ∈ Outline.voids → children = []) ∧
      ProperAll children

def ProperAll : List Content → Prop
  | [] => True
  | t :: ts => Proper t ∧ ProperAll ts

end

theorem writeAll_append (ts us : List Content) :
    writeAll (ts ++ us) = writeAll ts ++ writeAll us := by
  induction ts with
  | nil => rfl
  | cons t ts ih => rw [List.cons_append, writeAll, writeAll, ih, List.append_assoc]

theorem properAll_append {ts us : List Content} (hts : ProperAll ts) (hus : ProperAll us) :
    ProperAll (ts ++ us) := by
  induction ts with
  | nil => exact hus
  | cons t ts ih => exact ⟨hts.1, ih hts.2⟩

/-- The rest of a text in which nothing more comes before the next end tag. -/
def Closes (r : List Char) : Prop := r = [] ∨ ∃ rest, r = '<' :: '/' :: rest

theorem not_closes_write {t : Content} (ht : t.Proper) (r : List Char) :
    ¬ Closes (t.write ++ r) := by
  cases t with
  | char c =>
    obtain ⟨d, rest, hd, hopen⟩ := exists_head_escapeChar c
    rw [write, hd]
    rintro (hnil | ⟨rest', heq⟩)
    · exact nomatch hnil
    · exact hopen (List.cons.inj heq).1
  | element name attributes children =>
    rw [write, List.append_assoc, writeTag_append]
    rintro (hnil | ⟨rest', heq⟩)
    · exact nomatch hnil
    · have hinner := (List.cons.inj heq).2
      cases hname : name.toList with
      | nil =>
        obtain ⟨c, rest, hc, -, hslash⟩ := exists_head_attributes attributes _
        rw [hname, List.nil_append, hc] at hinner
        exact hslash (List.cons.inj hinner).1
      | cons c cs =>
        have hc : isNameChar c = true := ht.1.isNameChar (hname ▸ List.mem_cons_self)
        rw [hname] at hinner
        exact (not_special_of_isNameChar hc).2.2.2.1 (List.cons.inj hinner).1

/-- A character does not look like an element. -/
theorem char_append_ne_element (c : Char) (name : String) (attributes : List (String × String))
    (children : List Content) (r s : List Char) :
    (char c).write ++ r ≠ (element name attributes children).write ++ s := by
  obtain ⟨d, rest, hd, hopen⟩ := exists_head_escapeChar c
  rw [write, write, List.append_assoc, writeTag_append, hd]
  intro h
  exact hopen (List.cons.inj h).1

mutual

/-- One piece of content is told by its markup, whatever comes after it. -/
theorem write_append_inj : (t u : Content) → t.Proper → u.Proper → {r s : List Char} →
    t.write ++ r = u.write ++ s → t = u ∧ r = s
  | .char c, .char d, _, _, r, s, h => by
    obtain ⟨rfl, hrest⟩ := escapeChar_append_inj h
    exact ⟨rfl, hrest⟩
  | .char c, .element name attributes children, _, _, r, s, h =>
    absurd h (char_append_ne_element c name attributes children r s)
  | .element name attributes children, .char c, _, _, r, s, h =>
    absurd h.symm (char_append_ne_element c name attributes children s r)
  | .element name attributes children, .element name' attributes' children', ht, hu, r, s, h => by
    obtain ⟨hname, hattributes, hempty, hchildren⟩ := ht
    obtain ⟨hname', hattributes', hempty', hchildren'⟩ := hu
    rw [write, write, List.append_assoc (Node.writeTag name attributes),
      List.append_assoc (Node.writeTag name' attributes')] at h
    obtain ⟨rfl, rfl, hrest⟩ := writeTag_append_inj hname hname' hattributes hattributes' h
    by_cases hvoid : name ∈ Outline.voids
    · rw [if_pos hvoid, if_pos hvoid] at hrest
      rw [hempty hvoid, hempty' hvoid]
      exact ⟨rfl, hrest⟩
    · -- the content of both ends at the end tag of the name they share
      rw [if_neg hvoid, if_neg hvoid] at hrest
      simp only [List.append_assoc, List.cons_append, List.nil_append] at hrest
      obtain ⟨rfl, hend⟩ := writeAll_append_inj children children' hchildren hchildren'
        (.inr ⟨_, rfl⟩) (.inr ⟨_, rfl⟩) hrest
      have htail := List.append_cancel_left (List.cons.inj (List.cons.inj hend).2).2
      exact ⟨rfl, (List.cons.inj htail).2⟩

theorem writeAll_append_inj : (ts us : List Content) → ProperAll ts → ProperAll us →
    {r s : List Char} → Closes r → Closes s → writeAll ts ++ r = writeAll us ++ s →
      ts = us ∧ r = s
  | [], [], _, _, _, _, _, _, h => ⟨rfl, h⟩
  | [], u :: us, _, hus, r, s, hr, _, h => by
    -- the left text ends here, and the right one goes on with something else than an end tag
    rw [writeAll, List.nil_append, writeAll, List.append_assoc] at h
    exact absurd (h ▸ hr) (not_closes_write hus.1 _)
  | t :: ts, [], hts, _, r, s, _, hs, h => by
    rw [writeAll, writeAll, List.nil_append, List.append_assoc] at h
    exact absurd (h ▸ hs) (not_closes_write hts.1 _)
  | t :: ts, u :: us, hts, hus, r, s, hr, hs, h => by
    rw [writeAll, writeAll, List.append_assoc, List.append_assoc] at h
    obtain ⟨rfl, hrest⟩ := write_append_inj t u hts.1 hus.1 h
    obtain ⟨rfl, htail⟩ := writeAll_append_inj ts us hts.2 hus.2 hr hs hrest
    exact ⟨rfl, htail⟩

end

theorem writeAll_inj {ts us : List Content} (hts : ProperAll ts) (hus : ProperAll us)
    (h : writeAll ts = writeAll us) : ts = us := by
  have happend : writeAll ts ++ [] = writeAll us ++ [] := by rw [h]
  exact (writeAll_append_inj ts us hts hus (.inl rfl) (.inl rfl) happend).1

/-- The characters of a text. -/
def chars (s : String) : List Content := s.toList.map .char

theorem writeAll_chars (s : String) : writeAll (chars s) = escape s.toList := by
  unfold chars
  induction s.toList with
  | nil => rfl
  | cons c cs ih =>
    rw [List.map_cons, writeAll, ih]
    rfl

theorem properAll_chars (s : String) : ProperAll (chars s) := by
  unfold chars
  induction s.toList with
  | nil => trivial
  | cons c cs ih => exact ⟨trivial, ih⟩

theorem chars_inj (s t : String) : chars s = chars t ↔ s = t := by
  unfold chars
  rw [List.map_inj_right fun c d h => Content.char.inj h, String.toList_inj]

theorem chars_ne_element (s name : String) (attributes : List (String × String))
    (children rest : List Content) : chars s ≠ .element name attributes children :: rest := by
  unfold chars
  cases s.toList with
  | nil => exact List.cons_ne_nil _ _ ∘ Eq.symm
  | cons c cs => exact fun h => nomatch (List.cons.inj h).1

end Content

namespace Node

theorem write_raw_markup (ns : List Node) : (raw (markup ns)).write = writeAll ns :=
  String.toList_ofList

theorem writeAll_append (ms ns : List Node) :
    writeAll (ms ++ ns) = writeAll ms ++ writeAll ns := by
  induction ms with
  | nil => rfl
  | cons m ms ih => rw [List.cons_append, writeAll, writeAll, ih, List.append_assoc]

mutual

/-- The content of a tree. Markup that was written before is not looked into. -/
def content : Node → List Content
  | .text s => Content.chars s
  | .raw _ => []
  | .element name attributes children => [.element name attributes (contentAll children)]
  | .void name attributes => [.element name attributes []]

def contentAll : List Node → List Content
  | [] => []
  | n :: ns => content n ++ contentAll ns

end

mutual

/-- A tree without markup that was written before. -/
def Plain : Node → Prop
  | .text _ => True
  | .raw _ => False
  | .element _ _ children => PlainAll children
  | .void _ _ => True

def PlainAll : List Node → Prop
  | [] => True
  | n :: ns => Plain n ∧ PlainAll ns

end

theorem contentAll_append (ms ns : List Node) :
    contentAll (ms ++ ns) = contentAll ms ++ contentAll ns := by
  induction ms with
  | nil => rfl
  | cons m ms ih => rw [List.cons_append, contentAll, contentAll, ih, List.append_assoc]

theorem contentAll_eq_flatMap (ns : List Node) : contentAll ns = ns.flatMap content := by
  induction ns with
  | nil => rfl
  | cons n ns ih => rw [contentAll, ih, List.flatMap_cons]

theorem plainAll_iff (ns : List Node) : PlainAll ns ↔ ∀ n ∈ ns, n.Plain := by
  induction ns with
  | nil => simp [PlainAll]
  | cons n ns ih => rw [PlainAll, ih, List.forall_mem_cons]

theorem plainAll_append (ms ns : List Node) :
    PlainAll (ms ++ ns) ↔ PlainAll ms ∧ PlainAll ns := by
  simp only [plainAll_iff, List.forall_mem_append]

mutual

theorem write_eq_content : (n : Node) → n.Plain → n.Proper → n.write = Content.writeAll n.content
  | .text s, _, _ => (Content.writeAll_chars s).symm
  | .element name attributes children, hplain, hproper => by
    obtain ⟨-, hvoid, -, hchildren⟩ := hproper
    rw [write, content, writeAll_eq_contentAll children hplain hchildren, Content.writeAll,
      Content.write, Content.writeAll, if_neg hvoid]
    simp only [List.append_assoc, List.append_nil]
  | .void name attributes, _, hproper => by
    obtain ⟨-, hvoid, -⟩ := hproper
    rw [write, content, Content.writeAll, Content.write, Content.writeAll, if_pos hvoid,
      List.append_nil, List.append_nil]

theorem writeAll_eq_contentAll : (ns : List Node) → PlainAll ns → ProperAll ns →
    writeAll ns = Content.writeAll (contentAll ns)
  | [], _, _ => rfl
  | n :: ns, hplain, hproper => by
    rw [writeAll, contentAll, Content.writeAll_append, write_eq_content n hplain.1 hproper.1,
      writeAll_eq_contentAll ns hplain.2 hproper.2]

end

mutual

theorem proper_content : (n : Node) → n.Proper → Content.ProperAll n.content
  | .text s, _ => Content.properAll_chars s
  | .raw _, _ => trivial
  | .element name attributes children, h => by
    obtain ⟨hname, hvoid, hattributes, hchildren⟩ := h
    exact ⟨⟨hname, hattributes, fun hmem => absurd hmem hvoid,
      properAll_contentAll children hchildren⟩, trivial⟩
  | .void name attributes, h => ⟨⟨h.1, h.2.2, fun _ => rfl, trivial⟩, trivial⟩

theorem properAll_contentAll : (ns : List Node) → ProperAll ns →
    Content.ProperAll (contentAll ns)
  | [], _ => trivial
  | n :: ns, h =>
    Content.properAll_append (proper_content n h.1) (properAll_contentAll ns h.2)

end

/-- Trees have the same markup if and only if they have the same content. -/
theorem markup_eq_iff {ns ms : List Node} (hns : ProperAll ns) (hms : ProperAll ms)
    (hns' : PlainAll ns) (hms' : PlainAll ms) :
    markup ns = markup ms ↔ contentAll ns = contentAll ms := by
  rw [markup, markup, String.ofList_inj, writeAll_eq_contentAll ns hns' hns,
    writeAll_eq_contentAll ms hms' hms]
  constructor
  · exact Content.writeAll_inj (properAll_contentAll ns hns) (properAll_contentAll ms hms)
  · exact congrArg Content.writeAll

end Node

end StatusBoard.Html
