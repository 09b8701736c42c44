import StatusBoard.Proofs.Board.Document
import Mathlib.Data.List.Infix

/-!
The ids of a page. The five ids of an entry are its name with one of five endings. No ending is the
end of another one or of an id that every page has, so an id tells both its ending and its name, and
names that differ share no id. A scan of the page finds exactly these ids, each of them once.
-/
namespace StatusBoard

open Html (Tag escapeText unescapeText scan)

namespace ElementIds

/-- The ids in the order in which they are written. -/
def toList (i : ElementIds) : List String :=
  [i.item, i.statusIcon, i.totalInstances, i.healthyInstances, i.unhealthyInstances]

def endings : List String :=
  ["_service_item", "_service_status_icon", "_total_instances_count", "_healthy_instances_count",
    "_unhealthy_instances_count"]

theorem toList_ofName (name : String) :
    (ofName name).toList = endings.map fun ending => name ++ ending := rfl

theorem mem_ofName_iff (name id : String) :
    id ∈ (ofName name).toList ↔ ∃ ending ∈ endings, name ++ ending = id := by
  rw [toList_ofName, List.mem_map]

theorem ending_eq_of_suffix {s t : String} (hs : s ∈ endings) (ht : t ∈ endings)
    (h : s.toList <:+ t.toList) : s = t := by
  have hall : ∀ s ∈ endings, ∀ t ∈ endings, s.toList <:+ t.toList → s = t := by decide
  exact hall s hs t ht h

/-- An id tells its name and its ending: of two endings of one text the shorter ends the longer. -/
theorem append_ending_inj {x y s t : String} (hs : s ∈ endings) (ht : t ∈ endings)
    (h : x ++ s = y ++ t) : x = y ∧ s = t := by
  have hlist : x.toList ++ s.toList = y.toList ++ t.toList := by
    rw [← String.toList_append, h, String.toList_append]
  have hsuffix : s.toList <:+ y.toList ++ t.toList := ⟨x.toList, hlist⟩
  have hsame : s = t := by
    rcases List.suffix_or_suffix_of_suffix hsuffix (List.suffix_append _ _) with hst | hts
    · exact ending_eq_of_suffix hs ht hst
    · exact (ending_eq_of_suffix ht hs hts).symm
  subst hsame
  exact ⟨(String.append_left_inj s).mp h, rfl⟩

theorem nodup_ofName (name : String) : (ofName name).toList.Nodup := by
  rw [toList_ofName]
  refine List.Nodup.map_on ?_ (by decide)
  intro s hs t ht h
  exact (append_ending_inj hs ht h).2

theorem disjoint_ofName {x y : String} (h : x ≠ y) :
    (ofName x).toList.Disjoint (ofName y).toList := by
  intro id hx hy
  obtain ⟨s, hs, hxs⟩ := (mem_ofName_iff x id).mp hx
  obtain ⟨t, ht, hyt⟩ := (mem_ofName_iff y id).mp hy
  exact h (append_ending_inj hs ht (hxs.trans hyt.symm)).1

theorem nodup_flatMap_ofName {names : List String} (h : names.Nodup) :
    (names.flatMap fun x => (ofName x).toList).Nodup := by
  rw [List.nodup_flatMap]
  exact ⟨fun x _ => nodup_ofName x, h.imp disjoint_ofName⟩

end ElementIds

namespace View

/-- The ids that every page has. -/
def fixedIds : List String :=
  ["revolver_dashboard_content", "client_id_text", "total_service_count", "total_healthy_count",
    "total_unhealthy_count", "total_unknown_count", "collection_services"]

theorem not_mem_ofName_of_mem_fixedIds {id : String} (hid : id ∈ fixedIds) (name : String) :
    id ∉ (ElementIds.ofName name).toList := by
  have hall : ∀ id ∈ fixedIds, ∀ s ∈ ElementIds.endings, ¬ s.toList <:+ id.toList := by decide
  intro hmem
  obtain ⟨s, hs, rfl⟩ := (ElementIds.mem_ofName_iff name id).mp hmem
  apply hall _ hid s hs
  rw [String.toList_append]
  exact List.suffix_append _ _

theorem nodup_ids {names : List String} (h : names.Nodup) :
    (fixedIds ++ names.flatMap fun x => (ElementIds.ofName x).toList).Nodup := by
  refine List.nodup_append'.mpr ⟨by decide, ElementIds.nodup_flatMap_ofName h, ?_⟩
  intro id hfixed hentries
  obtain ⟨x, -, hx⟩ := List.mem_flatMap.mp hentries
  exact not_mem_ofName_of_mem_fixedIds hfixed x hx

end View

namespace Markup

open Html.Node

theorem ids_chip (a : Api) (method : String) : Tag.ids (chip a method).tags = [] := by
  unfold chip
  cases a.async <;> simp [icon, ids_element, ids_tagsAll, ids_text]

theorem ids_api (service : String) (a : Api) : Tag.ids (api service a).tags = [] := by
  have hchips : (a.methods.map (chip a)).flatMap (fun n => Tag.ids n.tags) = [] := by
    rw [List.flatMap_map, List.flatMap_eq_nil_iff]
    exact fun method _ => ids_chip a method
  simp [api, ids_element, ids_tagsAll, ids_text, hchips]

theorem ids_node (e : Entry) :
    Tag.ids e.node.tags = (ElementIds.ofName e.name).toList.map escapeText := by
  have hlist : (apis e.name e.apis).flatMap (fun n => Tag.ids n.tags) = [] := by
    rw [apis, List.flatMap_map, List.flatMap_eq_nil_iff]
    exact fun a _ => ids_api e.name a
  simp [Entry.node, entry, countChip, ids_element, ids_tagsAll, ids_text, hlist, ElementIds.toList]

end Markup

namespace Board

open Html.Node

theorem ids_nodes (b : Board) (refreshSeconds : Nat) :
    Tag.ids (tagsAll (b.nodes refreshSeconds)) =
      (View.fixedIds ++ b.listed.flatMap fun e => (ElementIds.ofName e.name).toList).map
        escapeText := by
  have hlines : ((b.listed.map Entry.node).flatMap fun n => [n, .text "\n"]).flatMap
      (fun n => Tag.ids n.tags) =
        (b.listed.flatMap fun e => (ElementIds.ofName e.name).toList).map escapeText := by
    rw [List.flatMap_assoc, List.flatMap_map, List.map_flatMap]
    simp only [List.flatMap_cons, List.flatMap_nil, List.append_nil, ids_text, Markup.ids_node]
  simp [nodes, View.document, View.head, View.stylesheet, View.body, View.totals, View.countLine,
    View.captioned, ids_element, ids_void, ids_text, ids_tagsAll, hlines, View.fixedIds]

theorem ids_page (h : List Pass) (refreshSeconds : Nat) :
    Tag.ids (scan (((after .html h).view .html : Id View).run.page refreshSeconds).toList).tags =
      (View.fixedIds ++ (after (.html : Renderer Id) h).order.flatMap fun x =>
        (ElementIds.ofName x).toList).map escapeText := by
  have hscans := View.scans_doctype.append
    (scans_markup (properAll_nodes (after (.html : Renderer Id) h) refreshSeconds))
  have hdoctype : Tag.ids [View.doctype] = [] := rfl
  have hnames := (sound_after (r := .html) h).name_listed
  rw [page_of_history, String.toList_append, Html.scan_eq_of_scans hscans, Tag.ids_append, hdoctype,
    List.nil_append, ids_nodes, ← hnames, List.flatMap_map]

/-- The ids in a page are those that every page has and five for each entry, and no id occurs
twice, be it as the page is written or as its entities are read. -/
theorem ids_distinct (h : List Pass) (refreshSeconds : Nat) :
    let ids := Tag.ids
      (scan (((after .html h).view .html : Id View).run.page refreshSeconds).toList).tags
    ids.map unescapeText = View.fixedIds ++
        ((after (.html : Renderer Id) h).order.flatMap fun x => (ElementIds.ofName x).toList) ∧
      (ids.map unescapeText).Nodup ∧ ids.Nodup := by
  intro ids
  have hread : ids.map unescapeText = View.fixedIds ++
      ((after (.html : Renderer Id) h).order.flatMap fun x => (ElementIds.ofName x).toList) := by
    have hinverse : unescapeText ∘ escapeText = id := funext Html.unescapeText_escapeText
    have hids := congrArg (List.map unescapeText) (ids_page h refreshSeconds)
    rw [List.map_map, hinverse, List.map_id] at hids
    exact hids
  have hnodup : (ids.map unescapeText).Nodup := by
    rw [hread]
    exact View.nodup_ids (sound_after h).order_nodup
  exact ⟨hread, hnodup, hnodup.of_map unescapeText⟩

end Board

end StatusBoard
