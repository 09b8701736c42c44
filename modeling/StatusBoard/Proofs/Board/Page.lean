import StatusBoard.Board.Page
import StatusBoard.Proofs.Board.Soundness
import StatusBoard.Proofs.Html.Markup

/-!
The page of a board as a scan for tags sees it. The tags are those of fixed trees around one part
for each entry, each API and each method, so that their names and those of their attributes follow
from the shape of the board alone; no text that a gateway sent can open, close or extend a tag or an
attribute. The API list of an entry is markup from an earlier pass, and what is known of all boards
that passes lead to says which.
-/
namespace StatusBoard

open Html (Node Tag Outline around Scans scan)

/-- What of an API shows in the tags: how many methods it takes, and whether it is asynchronous. -/
structure Api.Shape where
  methods : Nat
  async : Bool
deriving DecidableEq, Repr

def Api.shape (a : Api) : Api.Shape := ⟨a.methods.length, a.async⟩

namespace Markup

open Html.Node

def iconTags : List Outline := around "i" ["class"] []

def chipTags (async : Bool) : List Outline :=
  around "span" ["class"] (iconTags ++ if async then iconTags else [])

def apiTags (a : Api.Shape) : List Outline :=
  around "li" ["class"] (around "a" ["href"]
    ((List.replicate a.methods (chipTags a.async)).flatten ++ around "span" [] []))

def countTags : List Outline :=
  (List.replicate 3 (around "span" ["class", "id"] [])).flatten

def entryTags (as : List Api.Shape) : List Outline :=
  around "li" ["id"]
    (around "div" ["class"]
        (around "div" ["class"]
          (around "i" ["class", "id"] [] ++ around "span" ["class"] [] ++
            around "p" [] (iconTags ++ countTags))) ++
      around "div" ["class"] (around "ul" [] (as.flatMap apiTags)))

theorem outline_chip (a : Api) (method : String) : (chip a method).outline = chipTags a.async := by
  unfold chip
  cases a.async <;> rfl

theorem proper_chip (a : Api) (method : String) : (chip a method).Proper := by
  unfold chip
  cases a.async <;> simp +decide [icon, Proper, ProperAll]

theorem outline_api (service : String) (a : Api) : (api service a).outline = apiTags a.shape := by
  have hchips : outlineAll (a.methods.map (chip a)) =
      (List.replicate a.methods.length (chipTags a.async)).flatten := by
    rw [outlineAll_map (chip a) _ (outline_chip a), List.flatMap, List.map_const']
  simp only [api, outline_element, outlineAll_append, outlineAll_cons, outlineAll_nil, hchips,
    List.append_nil]
  rfl

theorem proper_api (service : String) (a : Api) : (api service a).Proper := by
  have hchips : ProperAll (a.methods.map (chip a)) := properAll_map (proper_chip a) a.methods
  simp +decide [api, Proper, ProperAll, properAll_append, hchips]

theorem outlineAll_apis (service : String) (as : List Api) :
    outlineAll (apis service as) = (as.map Api.shape).flatMap apiTags := by
  rw [apis, outlineAll_map (api service) _ (outline_api service), List.flatMap_map]

theorem outline_entry (e : Entry) (apiList : List Node) (as : List Api.Shape)
    (h : outlineAll apiList = as.flatMap apiTags) :
    (entry e apiList).outline = entryTags as := by
  simp only [entry, countChip, outline_element, outlineAll_cons, outlineAll_nil, outline_text, h,
    List.append_nil]
  rfl

theorem proper_entry (e : Entry) (apiList : List Node) (h : ProperAll apiList) :
    (entry e apiList).Proper := by
  simp +decide [entry, countChip, Proper, ProperAll, h]

end Markup

namespace EntryView

open Markup

/-- An entry whose markup has the tags of its APIs. -/
structure Framed (e : EntryView) : Prop where
  proper : (Node.raw e.markup).Proper
  outline_eq : (Node.raw e.markup).outline = entryTags (e.apis.map Api.shape)

/-- The API list of an entry is the markup of its own APIs. -/
theorem apiMarkup_eq {latest : Nat} {x : String} {e : Entry}
    (he : e.Sound (.html : Renderer Id) latest x) :
    e.apiMarkup = Node.markup (Markup.apis e.name e.apis) := by
  obtain ⟨s, hname, hapis, hmarkup⟩ := he.markup_eq
  rw [hmarkup, ← hname, ← hapis]
  rfl

theorem framed_of_sound {latest : Nat} {x : String} {e : Entry}
    (he : e.Sound (.html : Renderer Id) latest x) :
    (ofEntry .html e : Id EntryView).run.Framed := by
  have hlist := apiMarkup_eq he
  have hproperApis : Node.ProperAll (Markup.apis e.name e.apis) :=
    Node.properAll_map (proper_api e.name) e.apis
  have hproper : Node.ProperAll [.raw e.apiMarkup] := by
    rw [hlist]
    exact ⟨Node.proper_raw_markup hproperApis, trivial⟩
  have houtline : Node.outlineAll [.raw e.apiMarkup] = (e.apis.map Api.shape).flatMap apiTags := by
    rw [hlist, Node.outlineAll_cons, Node.outline_raw_markup hproperApis, outlineAll_apis,
      Node.outlineAll_nil, List.append_nil]
  have hentry : Node.ProperAll [entry e [.raw e.apiMarkup]] :=
    ⟨proper_entry e _ hproper, trivial⟩
  have hraw := Node.outline_raw_markup hentry
  rw [Node.outlineAll_cons, Node.outlineAll_nil, List.append_nil,
    outline_entry e _ _ houtline] at hraw
  exact ⟨Node.proper_raw_markup hentry, hraw⟩

end EntryView

namespace View

open Html.Node

/-- The APIs of each entry. -/
def shape (v : View) : List (List Api.Shape) :=
  v.entries.map fun e => e.apis.map Api.shape

def headTags : List Outline :=
  around "head" []
    ([⟨false, "meta", ["charset"]⟩, ⟨false, "meta", ["http-equiv", "content"]⟩] ++
      around "title" [] [] ++ List.replicate 2 ⟨false, "link", ["rel", "href"]⟩)

def totalsTags : List Outline :=
  around "div" ["class"]
    (List.replicate 4 (around "span" ["class"] (around "span" ["id"] []))).flatten

/-- The tags of a document around those of its entries. -/
def documentTags (entries : List Outline) : List Outline :=
  around "html" ["lang"] (headTags ++
    around "body" [] (around "div" ["id", "class"]
      (around "h5" [] (around "span" ["id"] []) ++ totalsTags ++
        around "ul" ["class", "data-collapsible", "id"] entries)))

def doctype : Tag := ⟨false, "!DOCTYPE", [("html", "")]⟩

/-- The tags of a page for a board of this shape. -/
def pageTags (entries : List (List Api.Shape)) : List Outline :=
  [doctype.outline] ++ documentTags (entries.flatMap Markup.entryTags)

theorem outlineAll_lines (ns : List Node) :
    outlineAll (ns.flatMap fun n => [n, .text "\n"]) = ns.flatMap outline := by
  rw [outlineAll_eq_flatMap, List.flatMap_assoc]
  simp only [List.flatMap_cons, List.flatMap_nil, outline_text, List.append_nil]

theorem properAll_lines {ns : List Node} (h : ProperAll ns) :
    ProperAll (ns.flatMap fun n => [n, .text "\n"]) := by
  rw [properAll_iff] at h ⊢
  intro m hm
  obtain ⟨n, hn, hm⟩ := List.mem_flatMap.mp hm
  rcases List.mem_pair.mp hm with rfl | rfl
  · exact h _ hn
  · trivial

theorem outline_document (clientId : String) (counts : Counts) (entries : List Node)
    (refreshSeconds : Nat) :
    (document clientId counts entries refreshSeconds).outline =
      documentTags (entries.flatMap outline) := by
  simp only [document, head, stylesheet, body, totals, countLine, captioned, outline_element,
    outline_void, outline_text, outlineAll_cons, outlineAll_nil, outlineAll_lines,
    List.cons_append, List.nil_append, List.append_nil]
  rfl

theorem proper_document (clientId : String) (counts : Counts) {entries : List Node}
    (h : ProperAll entries) (refreshSeconds : Nat) :
    (document clientId counts entries refreshSeconds).Proper := by
  have hlines := properAll_lines h
  simp +decide [document, head, stylesheet, body, totals, countLine, captioned, Proper, ProperAll,
    hlines]

theorem scans_doctype : Scans "<!DOCTYPE html>\n".toList [doctype] := by
  intro before
  rfl

/-- What stands behind the doctype. -/
def nodes (v : View) (refreshSeconds : Nat) : List Node :=
  [document (v.clientId.getD "") v.counts (v.entries.map fun e => .raw e.markup) refreshSeconds,
    .text "\n"]

theorem page_eq (v : View) (refreshSeconds : Nat) :
    v.page refreshSeconds = "<!DOCTYPE html>\n" ++ markup (v.nodes refreshSeconds) := rfl

theorem properAll_nodes {v : View} (hv : ∀ e ∈ v.entries, e.Framed) (refreshSeconds : Nat) :
    ProperAll (v.nodes refreshSeconds) := by
  have hentries : ProperAll (v.entries.map fun e => .raw e.markup) := by
    rw [properAll_iff]
    intro n hn
    obtain ⟨e, he, rfl⟩ := List.mem_map.mp hn
    exact (hv e he).proper
  exact ⟨proper_document _ _ hentries _, trivial, trivial⟩

theorem outlineAll_nodes {v : View} (hv : ∀ e ∈ v.entries, e.Framed) (refreshSeconds : Nat) :
    outlineAll (v.nodes refreshSeconds) = documentTags (v.shape.flatMap Markup.entryTags) := by
  have hentries : (v.entries.map fun e => Node.raw e.markup).flatMap outline =
      v.shape.flatMap Markup.entryTags := by
    rw [shape, List.flatMap, List.flatMap, List.map_map, List.map_map]
    exact congrArg List.flatten (List.map_congr_left fun e he => (hv e he).outline_eq)
  simp only [nodes, outlineAll_cons, outlineAll_nil, outline_document, hentries, outline_text,
    List.append_nil]

/-- The page around entries that have the tags of their APIs. -/
theorem outline_page {v : View} (hv : ∀ e ∈ v.entries, e.Framed) (refreshSeconds : Nat) :
    ∃ ts, Scans (v.page refreshSeconds).toList ts ∧ ts.map Tag.outline = pageTags v.shape ∧
      Outline.Nested (pageTags v.shape) := by
  have hproper := properAll_nodes hv refreshSeconds
  have houtline := outlineAll_nodes hv refreshSeconds
  have hvoid : "!DOCTYPE" ∈ Outline.voids := by decide
  have hbalanced := (Html.balanced_void hvoid ["html"]).append (balanced_outlineAll _ hproper)
  have hscans := scans_doctype.append (scans_markup hproper)
  rw [houtline] at hbalanced
  rw [page_eq, String.toList_append]
  refine ⟨_, hscans, ?_, hbalanced.nested⟩
  rw [List.map_append, ← outlineAll, houtline]
  rfl

theorem framed_of_history (h : List Pass) :
    ∀ e ∈ ((Board.after .html h).view .html : Id View).run.entries, e.Framed := by
  intro e he
  rw [Board.entries_view] at he
  obtain ⟨entry, hentry, rfl⟩ := List.mem_map.mp he
  exact EntryView.framed_of_sound ((Board.sound_after h).of_mem_listed hentry)

/-- Whatever the snapshots said, the scan of the page ends outside of tags; the names of its tags
and of their attributes follow from the shape of the board, and the tags are properly nested. -/
theorem scan_page (h : List Pass) (refreshSeconds : Nat) :
    let v := ((Board.after .html h).view .html : Id View).run
    (scan (v.page refreshSeconds).toList).mode = .outside ∧
      (scan (v.page refreshSeconds).toList).tags.map Tag.outline = pageTags v.shape ∧
      Outline.Nested (pageTags v.shape) := by
  intro v
  obtain ⟨ts, hscans, houtline, hnested⟩ := outline_page (framed_of_history h) refreshSeconds
  rw [Html.scan_eq_of_scans hscans]
  exact ⟨rfl, houtline, hnested⟩

end View

end StatusBoard
