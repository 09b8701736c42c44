import StatusBoard.Proofs.Board.Page
import StatusBoard.Proofs.Html.Content

/-!
The page of a board as one tree. The markup of an entry is written before the page is, and that of
its API list in an earlier pass; since it is known what they were written from, the page is the
markup of a tree that holds every entry and every API in full.
-/
namespace StatusBoard

open Html (Node)

/-- An entry around its API list in full. -/
def Entry.node (e : Entry) : Node := Markup.entry e (Markup.apis e.name e.apis)

/-- What stands behind the doctype of a board's page. -/
def Board.nodes (b : Board) (refreshSeconds : Nat) : List Node :=
  [View.document (b.clientId.getD "") b.counts (b.listed.map Entry.node) refreshSeconds,
    .text "\n"]

open Html.Node

section Writing

/-- An entry is written alike around API lists that are written alike. -/
theorem Markup.write_entry_congr (e : Entry) {ms ns : List Node} (h : writeAll ms = writeAll ns) :
    (Markup.entry e ms).write = (Markup.entry e ns).write := by
  simp only [Markup.entry, write, writeAll, h]

theorem View.writeAll_lines_congr {ms ns : List Node} (h : ms.map write = ns.map write) :
    writeAll (ms.flatMap fun n => [n, .text "\n"]) =
      writeAll (ns.flatMap fun n => [n, .text "\n"]) := by
  have hlines (l : List Node) : writeAll (l.flatMap fun n => [n, .text "\n"]) =
      (l.map write).flatMap fun cs => cs ++ ['\n'] := by
    induction l with
    | nil => rfl
    | cons n l ih =>
      rw [List.flatMap_cons, writeAll_append, ih, List.map_cons, List.flatMap_cons]
      rfl
  rw [hlines, hlines, h]

/-- A document is written alike around entries that are written alike. -/
theorem View.write_document_congr (clientId : String) (counts : Counts) {ms ns : List Node}
    (h : ms.map write = ns.map write) (refreshSeconds : Nat) :
    (View.document clientId counts ms refreshSeconds).write =
      (View.document clientId counts ns refreshSeconds).write := by
  simp only [View.document, View.body, write, writeAll, writeAll_append,
    View.writeAll_lines_congr h]

theorem EntryView.write_markup {latest : Nat} {x : String} {e : Entry}
    (he : e.Sound (.html : Renderer Id) latest x) :
    (raw (EntryView.ofEntry .html e : Id EntryView).run.markup).write = e.node.write := by
  have hentry : (EntryView.ofEntry .html e : Id EntryView).run.markup =
      Node.markup [Markup.entry e [.raw e.apiMarkup]] := rfl
  have hlist : writeAll [.raw e.apiMarkup] = writeAll (Markup.apis e.name e.apis) := by
    rw [writeAll, writeAll, EntryView.apiMarkup_eq he, write_raw_markup, List.append_nil]
  rw [hentry, write_raw_markup, writeAll, writeAll, List.append_nil]
  exact Markup.write_entry_congr e hlist

end Writing

namespace Board

/-- The page of a board that passes lead to is the markup of its tree. -/
theorem page_of_history (h : List Pass) (refreshSeconds : Nat) :
    ((after .html h).view .html : Id View).run.page refreshSeconds =
      "<!DOCTYPE html>\n" ++ markup ((after .html h).nodes refreshSeconds) := by
  have hwrites : (((after .html h).view .html : Id View).run.entries.map fun e =>
      Node.raw e.markup).map write = ((after .html h).listed.map Entry.node).map write := by
    rw [entries_view, List.map_map, List.map_map, List.map_map]
    refine List.map_congr_left fun e he => ?_
    exact EntryView.write_markup ((sound_after h).of_mem_listed he)
  have hdocument := View.write_document_congr ((after .html h).clientId.getD "")
    (after .html h).counts hwrites refreshSeconds
  rw [View.page_eq, markup, markup, View.nodes, nodes, writeAll, writeAll]
  exact congrArg (fun cs => "<!DOCTYPE html>\n" ++ String.ofList (cs ++ writeAll [.text "\n"]))
    hdocument

section Shape

theorem properAll_nodes (b : Board) (refreshSeconds : Nat) :
    ProperAll (b.nodes refreshSeconds) := by
  have hentry (e : Entry) : e.node.Proper :=
    Markup.proper_entry e _ (properAll_map (Markup.proper_api e.name) e.apis)
  have hentries : ProperAll (b.listed.map Entry.node) := properAll_map hentry b.listed
  exact ⟨View.proper_document _ _ hentries _, trivial, trivial⟩

theorem plain_api (service : String) (a : Api) : (Markup.api service a).Plain := by
  have hchips : PlainAll (a.methods.map (Markup.chip a)) := by
    rw [plainAll_iff]
    intro n hn
    obtain ⟨method, -, rfl⟩ := List.mem_map.mp hn
    unfold Markup.chip
    cases a.async <;> simp [Markup.icon, Plain, PlainAll]
  simp [Markup.api, Plain, PlainAll, plainAll_append, hchips]

theorem plain_node (e : Entry) : e.node.Plain := by
  have hlist : PlainAll (Markup.apis e.name e.apis) := by
    rw [plainAll_iff]
    intro n hn
    obtain ⟨a, -, rfl⟩ := List.mem_map.mp hn
    exact plain_api e.name a
  simp [Entry.node, Markup.entry, Markup.countChip, Plain, PlainAll, hlist]

theorem plainAll_nodes (b : Board) (refreshSeconds : Nat) :
    PlainAll (b.nodes refreshSeconds) := by
  have hlines : PlainAll ((b.listed.map Entry.node).flatMap fun n => [n, .text "\n"]) := by
    rw [plainAll_iff]
    intro n hn
    obtain ⟨m, hm, hn⟩ := List.mem_flatMap.mp hn
    obtain ⟨e, -, rfl⟩ := List.mem_map.mp hm
    rcases List.mem_pair.mp hn with rfl | rfl
    · exact plain_node e
    · trivial
  simp [nodes, View.document, View.head, View.stylesheet, View.body, View.totals, View.countLine,
    View.captioned, Plain, PlainAll, hlines]

end Shape

end Board

end StatusBoard
