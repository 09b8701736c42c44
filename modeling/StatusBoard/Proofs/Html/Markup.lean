import StatusBoard.Proofs.Html.Scanner

/-!
The markup of a tree has the tags of the tree, whatever its texts and attribute values are, and
these tags are properly nested. Markup that was written before counts with the tags that a scan
finds in it. Among the attributes that a scan finds are the ids of the tree, each once and in order.
-/
namespace StatusBoard.Html

/-- Tags that close what they open and leave alone what is open before. -/
def Balanced (ts : List Outline) : Prop :=
  ∀ opened rest, Outline.nests opened (ts ++ rest) = Outline.nests opened rest

theorem balanced_nil : Balanced [] := fun _ _ => rfl

theorem Balanced.append {ts us : List Outline} (hts : Balanced ts) (hus : Balanced us) :
    Balanced (ts ++ us) := by
  intro opened rest
  rw [List.append_assoc, hts, hus]

theorem Balanced.nested {ts : List Outline} (h : Balanced ts) : Outline.Nested ts := by
  have hnests := h [] []
  rw [List.append_nil] at hnests
  exact hnests

theorem balanced_void {name : String} (hname : name ∈ Outline.voids) (attributes : List String) :
    Balanced [⟨false, name, attributes⟩] := by
  intro opened rest
  rw [List.singleton_append, Outline.nests_void hname]

/-- The tags of an element around those of its content. -/
def around (name : String) (attributes : List String) (inner : List Outline) : List Outline :=
  [⟨false, name, attributes⟩] ++ inner ++ [⟨true, name, []⟩]

theorem Balanced.around {name : String} (hname : name ∉ Outline.voids) (attributes : List String)
    {inner : List Outline} (h : Balanced inner) : Balanced (around name attributes inner) := by
  intro opened rest
  rw [Html.around, List.append_assoc, List.append_assoc, List.singleton_append,
    Outline.nests_start hname, h, List.singleton_append, Outline.nests_end]

namespace Node

mutual

/-- The tags of a tree. -/
def tags : Node → List Tag
  | .text _ => []
  | .raw s => (scan s.toList).tags
  | .element name attributes children =>
    [⟨false, name, written attributes⟩] ++ tagsAll children ++ [⟨true, name, []⟩]
  | .void name attributes => [⟨false, name, written attributes⟩]

def tagsAll : List Node → List Tag
  | [] => []
  | n :: ns => tags n ++ tagsAll ns

end

mutual

/-- A tree whose names are names, whose elements have end tags where they must, and whose markup
written before is closed in itself. -/
def Proper : Node → Prop
  | .text _ => True
  | .raw s => ∃ ts, Scans s.toList ts ∧ Balanced (ts.map Tag.outline)
  | .element name attributes children =>
    IsName name ∧ name ∉ Outline.voids ∧ (∀ a ∈ attributes, IsName a.1) ∧ ProperAll children
  | .void name attributes => IsName name ∧ name ∈ Outline.voids ∧ ∀ a ∈ attributes, IsName a.1

def ProperAll : List Node → Prop
  | [] => True
  | n :: ns => Proper n ∧ ProperAll ns

end

section Scans

mutual

/-- A scan of a tree's markup finds the tags of the tree. -/
theorem scans_write : (n : Node) → n.Proper → Scans n.write n.tags
  | .text s, _ => scans_escape s.toList
  | .raw s, h => by
    obtain ⟨ts, hscans, -⟩ := h
    have htags : (scan s.toList).tags = ts := congrArg Scanner.tags (scan_eq_of_scans hscans)
    rw [write, tags, htags]
    exact hscans
  | .element name attributes children, h => by
    obtain ⟨hname, -, hattributes, hchildren⟩ := h
    have hcontent := scans_writeAll children hchildren
    have helement := ((scans_writeTag hname hattributes).append hcontent).append
      (scans_endTag hname)
    have hwrite : write (.element name attributes children) =
        writeTag name attributes ++ writeAll children ++ (['<', '/'] ++ name.toList ++ ['>']) := by
      rw [write]
      simp only [List.append_assoc]
    rw [hwrite]
    exact helement
  | .void name attributes, h => scans_writeTag h.1 h.2.2

theorem scans_writeAll : (ns : List Node) → ProperAll ns → Scans (writeAll ns) (tagsAll ns)
  | [], _ => scans_nil
  | n :: ns, h => (scans_write n h.1).append (scans_writeAll ns h.2)

end

theorem scans_markup {ns : List Node} (h : ProperAll ns) :
    Scans (markup ns).toList (tagsAll ns) := by
  rw [markup, String.toList_ofList]
  exact scans_writeAll ns h

end Scans

section Outlines

/-- The tags of a tree without values. -/
def outline (n : Node) : List Outline := n.tags.map Tag.outline

def outlineAll (ns : List Node) : List Outline := (tagsAll ns).map Tag.outline

theorem outline_text (s : String) : (text s).outline = [] := rfl

theorem outline_start (name : String) (attributes : List (String × String)) :
    (⟨false, name, written attributes⟩ : Tag).outline = ⟨false, name, attributes.map (·.1)⟩ := by
  rw [Tag.outline, written, List.map_map]
  rfl

theorem outline_element (name : String) (attributes : List (String × String))
    (children : List Node) : (element name attributes children).outline =
      around name (attributes.map (·.1)) (outlineAll children) := by
  rw [outline, tags, List.map_append, List.map_append, List.map_singleton, outline_start]
  rfl

theorem outline_void (name : String) (attributes : List (String × String)) :
    (void name attributes).outline = [⟨false, name, attributes.map (·.1)⟩] := by
  rw [outline, tags, List.map_singleton, outline_start]

theorem outlineAll_nil : outlineAll [] = [] := rfl

theorem outlineAll_cons (n : Node) (ns : List Node) :
    outlineAll (n :: ns) = n.outline ++ outlineAll ns :=
  List.map_append

theorem outlineAll_eq_flatMap (ns : List Node) : outlineAll ns = ns.flatMap outline := by
  induction ns with
  | nil => rfl
  | cons n ns ih => rw [outlineAll_cons, ih, List.flatMap_cons]

theorem outlineAll_append (ms ns : List Node) :
    outlineAll (ms ++ ns) = outlineAll ms ++ outlineAll ns := by
  simp only [outlineAll_eq_flatMap, List.flatMap_append]

theorem outlineAll_map {α : Type} (f : α → Node) (g : α → List Outline)
    (h : ∀ x, (f x).outline = g x) (xs : List α) : outlineAll (xs.map f) = xs.flatMap g := by
  rw [outlineAll_eq_flatMap, List.flatMap_map]
  simp only [h]

mutual

/-- The tags of a tree are properly nested. -/
theorem balanced_outline : (n : Node) → n.Proper → Balanced n.outline
  | .text _, _ => balanced_nil
  | .raw s, h => by
    obtain ⟨ts, hscans, hbalanced⟩ := h
    have htags : (scan s.toList).tags = ts := congrArg Scanner.tags (scan_eq_of_scans hscans)
    rw [outline, tags, htags]
    exact hbalanced
  | .element name attributes children, h => by
    rw [outline_element]
    exact (balanced_outlineAll children h.2.2.2).around h.2.1 _
  | .void name attributes, h => by
    rw [outline_void]
    exact balanced_void h.2.1 _

theorem balanced_outlineAll : (ns : List Node) → ProperAll ns → Balanced (outlineAll ns)
  | [], _ => balanced_nil
  | n :: ns, h => by
    rw [outlineAll_cons]
    exact (balanced_outline n h.1).append (balanced_outlineAll ns h.2)

end

/-- Markup of a proper tree may stand in another one. -/
theorem proper_raw_markup {ns : List Node} (h : ProperAll ns) : (raw (markup ns)).Proper :=
  ⟨tagsAll ns, scans_markup h, balanced_outlineAll ns h⟩

theorem tags_raw_markup {ns : List Node} (h : ProperAll ns) :
    (raw (markup ns)).tags = tagsAll ns :=
  congrArg Scanner.tags (scan_eq_of_scans (scans_markup h))

theorem outline_raw_markup {ns : List Node} (h : ProperAll ns) :
    (raw (markup ns)).outline = outlineAll ns :=
  congrArg (List.map Tag.outline) (tags_raw_markup h)

end Outlines

theorem properAll_iff (ns : List Node) : ProperAll ns ↔ ∀ n ∈ ns, n.Proper := by
  induction ns with
  | nil => simp [ProperAll]
  | cons n ns ih => rw [ProperAll, ih, List.forall_mem_cons]

theorem properAll_append (ms ns : List Node) :
    ProperAll (ms ++ ns) ↔ ProperAll ms ∧ ProperAll ns := by
  simp only [properAll_iff, List.forall_mem_append]

theorem properAll_map {α : Type} {f : α → Node} (h : ∀ x, (f x).Proper) (xs : List α) :
    ProperAll (xs.map f) := by
  rw [properAll_iff]
  intro n hn
  obtain ⟨x, -, rfl⟩ := List.mem_map.mp hn
  exact h x

end Node

section Ids

/-- The values of the id attributes, as they are written. -/
def Tag.ids (ts : List Tag) : List String :=
  ts.flatMap fun t => (t.attributes.filter fun a => a.1 = "id").map (·.2)

theorem Tag.ids_append (ts us : List Tag) : ids (ts ++ us) = ids ts ++ ids us :=
  List.flatMap_append

/-- A start tag has the ids that its element was given, escaped. -/
theorem Tag.ids_start (name : String) (attributes : List (String × String)) :
    ids [⟨false, name, written attributes⟩] =
      ((attributes.filter fun a => a.1 = "id").map (·.2)).map escapeText := by
  rw [ids, List.flatMap_singleton, written, List.filter_map, List.map_map, List.map_map]
  rfl

namespace Node

theorem ids_text (s : String) : Tag.ids (text s).tags = [] := rfl

/-- The ids of an element stand before those of its content. -/
theorem ids_element (name : String) (attributes : List (String × String))
    (children : List Node) :
    Tag.ids (element name attributes children).tags =
      ((attributes.filter fun a => a.1 = "id").map (·.2)).map escapeText ++
        Tag.ids (tagsAll children) := by
  have hend : Tag.ids [⟨true, name, []⟩] = [] := rfl
  rw [tags, Tag.ids_append, Tag.ids_append, Tag.ids_start, hend, List.append_nil]

theorem ids_void (name : String) (attributes : List (String × String)) :
    Tag.ids (void name attributes).tags =
      ((attributes.filter fun a => a.1 = "id").map (·.2)).map escapeText := by
  rw [tags, Tag.ids_start]

theorem ids_tagsAll (ns : List Node) :
    Tag.ids (tagsAll ns) = ns.flatMap fun n => Tag.ids n.tags := by
  induction ns with
  | nil => rfl
  | cons n ns ih => rw [tagsAll, Tag.ids_append, ih, List.flatMap_cons]

end Node

end Ids

end StatusBoard.Html
