import StatusBoard.Proofs.Board.Columns
import StatusBoard.Proofs.Board.Order
import StatusBoard.Proofs.Except
import StatusBoard.Proofs.Text.Lines
import StatusBoard.Snapshot.Decoding

/-!
The listing line by line. It is written as a line for the client, a line for the counts and a row
for each entry, but the client and the names stand in it as a gateway sends them. A line feed in one
of them splits its line in two, and the second part may look like a row of its own. So the lines of
the text are the lines that were written only while no document has such a name or client.
-/
namespace StatusBoard

open Text (lines feeds ended)

namespace View

def clientText (v : View) : String := "client: " ++ v.clientId.getD "-"

def countsText (c : Counts) : String :=
  s!"services: {c.total} total, {c.healthy} healthy, {c.unhealthy} unhealthy, {c.unknown} unknown"

/-- The first line of the listing tells the client, the second one the counts, and each line after
them is the row of an entry, in the order of the view. -/
def TellsByLine (v : View) : Prop :=
  ∃ (width : Nat) (rows : List String),
    lines v.listing = v.clientText :: countsText v.counts :: rows ∧
    List.Forall₂ (fun e text => InColumns width e (text ++ "\n")) v.entries rows

def rowText (width : Nat) (e : EntryView) : String :=
  "[" ++ padded 5 e.indicator.word ++ "] " ++ padded width e.name ++
    s!"  Instances: {e.instances}  Healthy: {e.healthy}  Unhealthy: {e.unhealthy}  APIs: " ++
    toString e.apis.length

/-- The lines of the listing as they are written. -/
def pieces (v : View) : List String :=
  v.clientText :: countsText v.counts :: v.entries.map (rowText v.nameWidth)

theorem countsLine_eq (c : Counts) : countsLine c = countsText c ++ "\n" := by
  unfold countsLine countsText
  simp only [String.append_assoc]
  rfl

theorem listing_eq_ended (v : View) : v.listing = ended v.pieces := by
  rw [ended, pieces, List.map_cons, List.map_cons, String.join_cons, String.join_cons, List.map_map,
    ← countsLine_eq, ← String.append_assoc]
  rfl

section Feeds

theorem feeds_toString (n : Nat) : feeds (toString n) = 0 := by
  rw [Text.feeds_eq_zero_iff]
  show '\n' ∉ (Nat.repr n).toList
  rw [Nat.toList_repr]
  intro h
  have hdigit := Nat.isDigit_of_mem_toDigits (by decide) (by decide) h
  exact absurd hdigit (by decide)

theorem feeds_count (n : UInt64) : feeds (toString n) = 0 := feeds_toString n.toNat

/-- Only blanks are added to a text in a column. -/
theorem feeds_padded (width : Nat) (s : String) : feeds (padded width s) = feeds s := by
  rw [padded, Text.feeds_append, feeds, feeds, String.toList_ofList, List.count_replicate]
  rfl

theorem feeds_countsText (c : Counts) : feeds (countsText c) = 0 := by
  unfold countsText
  simp only [Text.feeds_append, feeds_toString]
  rfl

theorem feeds_clientText (v : View) : feeds v.clientText = feeds (v.clientId.getD "-") := by
  rw [clientText, Text.feeds_append]
  exact Nat.zero_add _

/-- A row has the line feeds of its name and no others. -/
theorem feeds_rowText (width : Nat) (e : EntryView) : feeds (rowText width e) = feeds e.name := by
  have hword : feeds e.indicator.word = 0 := by cases e.indicator <;> rfl
  unfold rowText
  simp only [Text.feeds_append, feeds_padded, feeds_toString, feeds_count, hword]
  show 0 + feeds e.name + 0 + 0 = feeds e.name
  omega

end Feeds

theorem length_lines_listing (v : View) :
    (lines v.listing).length =
      2 + v.entries.length + (feeds (v.clientId.getD "-") + (v.entries.map (feeds ·.name)).sum) := by
  have hrows : (v.entries.map (rowText v.nameWidth)).map feeds = v.entries.map (feeds ·.name) := by
    rw [List.map_map]
    exact List.map_congr_left fun e _ => feeds_rowText v.nameWidth e
  rw [listing_eq_ended, Text.length_lines_ended, pieces, List.map_cons, List.map_cons,
    List.sum_cons, List.sum_cons, hrows, feeds_clientText, feeds_countsText, List.length_cons,
    List.length_cons, List.length_map]
  omega

theorem forall_pieces_iff (v : View) :
    (∀ t ∈ v.pieces, '\n' ∉ t.toList) ↔
      '\n' ∉ (v.clientId.getD "-").toList ∧ ∀ e ∈ v.entries, '\n' ∉ e.name.toList := by
  simp only [pieces, List.forall_mem_cons, List.forall_mem_map, ← Text.feeds_eq_zero_iff,
    feeds_clientText, feeds_countsText, feeds_rowText, true_and]

theorem TellsByLine.length_lines {v : View} (h : v.TellsByLine) :
    (lines v.listing).length = v.entries.length + 2 := by
  obtain ⟨width, rows, hlines, hrows⟩ := h
  rw [hlines, List.length_cons, List.length_cons, hrows.length_eq]

/-- The lines are those that were written if and only if no line feed is written inside of one. -/
theorem tellsByLine_iff (v : View) :
    v.TellsByLine ↔
      '\n' ∉ (v.clientId.getD "-").toList ∧ ∀ e ∈ v.entries, '\n' ∉ e.name.toList := by
  rw [← forall_pieces_iff]
  constructor
  · intro htells
    rw [← Text.length_lines_ended_eq_iff, ← listing_eq_ended, htells.length_lines, pieces,
      List.length_cons, List.length_cons, List.length_map]
  · intro hpieces
    refine ⟨v.nameWidth, v.entries.map (rowText v.nameWidth), ?_, ?_⟩
    · rw [listing_eq_ended, Text.lines_ended hpieces, pieces]
    · exact List.forall₂_map_right_iff.mpr (List.forall₂_map_right_iff.mp v.inColumns_rows)

end View

namespace Board

theorem clientId_after (r : Renderer Id) (h : List Pass) :
    (after r h).clientId = h.getLast?.map (·.snapshot.clientId) := by
  cases h using List.reverseRecOn with
  | nil => rfl
  | append_singleton h p =>
    rw [after_concat, advance, board_reconcile, List.getLast?_concat]
    rfl

/-- A board has a listing unless a name is too long. This has a line for the client, one for the
counts, one for each entry, and one for each line feed in the client or in a name. So it tells line
by line what it is written of if and only if the last document has no line feed in its client and no
document has one in a name. -/
theorem lines_of_history (r : Renderer Id) (h : List Pass) :
    let b := after r h
    let v := (b.view r).run
    (v.listing? = if ∀ x ∈ b.order, x.utf8ByteSize ≤ 65535 then some v.listing else none) ∧
    v.entries.map (·.name) = b.order ∧
      (lines v.listing).length =
        2 + b.size + (feeds (v.clientId.getD "-") + (b.order.map feeds).sum) ∧
      (v.TellsByLine ↔
        (∀ p ∈ h.getLast?, '\n' ∉ p.snapshot.clientId.toList) ∧
          ∀ p ∈ h, ∀ s ∈ p.snapshot.services, '\n' ∉ s.name.toList) := by
  intro b v
  have hnames : v.entries.map (·.name) = b.order := by
    rw [name_entries_view, (sound_after h).name_listed]
  have hclient : v.clientId = h.getLast?.map (·.snapshot.clientId) := clientId_after r h
  refine ⟨?_, hnames, ?_, ?_⟩
  · rw [v.listing?_eq]
    refine if_congr ?_ rfl rfl
    rw [← hnames, List.forall_mem_map]
  · rw [v.length_lines_listing, ← hnames, List.map_map, (sound_after h).size_eq, ← hnames,
      List.length_map]
    rfl
  · rw [v.tellsByLine_iff, hclient]
    apply and_congr
    · cases h.getLast? <;> simp
    · have hlisted : (∀ e ∈ v.entries, '\n' ∉ e.name.toList) ↔ ∀ x ∈ b.order, '\n' ∉ x.toList := by
        rw [← hnames, List.forall_mem_map]
      rw [hlisted]
      constructor
      · intro hall p hp s hs
        exact hall s.name ((mem_order_after_iff h s.name).mpr ⟨p, hp, s, hs, rfl⟩)
      · intro hall x hx
        obtain ⟨p, hp, s, hs, rfl⟩ := (mem_order_after_iff h x).mp hx
        exact hall p hp s hs

/-- What readers see of one service after the first document. -/
theorem view_of_one_service (r : Renderer Id) (time : Nat) (d : Snapshot) (s : Service)
    (hs : d.services = [s]) :
    ((after r [⟨time, d⟩]).view r).run =
      ⟨some d.clientId, .ofServices [s],
        [(EntryView.ofEntry r (.create s (r.apis s).run 1)).run], 1, some time⟩ := by
  have hranked : d.ranked = [s] := List.perm_singleton.mp (hs ▸ d.ranked_perm)
  have hboard : after r [⟨time, d⟩] = conclude 1 time d (enter r 1 .empty s) := by
    have hpass := board_reconcile r time .empty d
    rw [hranked] at hpass
    exact hpass
  have hnone : empty.entries[s.name]? = none := Std.ExtHashMap.getElem?_empty
  have horder : (enter r 1 .empty s).order = [s.name] := by
    rw [order_enter, contains_eq_isSome, hnone]
    rfl
  have hentry : (enter r 1 .empty s).entries[s.name]? = some (.create s (r.apis s).run 1) := by
    rw [getElem?_enter, if_pos rfl, hnone]
    rfl
  have hlisted : (enter r 1 .empty s).listed = [.create s (r.apis s).run 1] := by
    rw [listed, horder, List.filterMap_cons, entry?, hentry, List.filterMap_nil]
  calc ((after r [⟨time, d⟩]).view r).run
      = ⟨some d.clientId, .ofServices d.services,
          (enter r 1 .empty s).listed.map fun e => (EntryView.ofEntry r e).run, 1, some time⟩ := by
        rw [hboard, ← entries_view]
        rfl
    _ = _ := by
        rw [hs, hlisted, List.map_singleton]

/-- A service whose name has a line feed. All that stands behind the line feed looks like the row of
a service that no document has. -/
theorem line_feed_forges_row :
    let body : List UInt8 := ("\x7b\"clientId\": \"c\", \"services\": [\x7b\"name\": " ++
      "\"a  Instances: 1  Healthy: 1  Unhealthy: 0  APIs: 0\\n[green] b\", " ++
      "\"status\": \"HEALTHY\", \"instances\": 2, \"healthy\": 2\x7d]\x7d").toUTF8.toList
    let d : Snapshot :=
      ⟨"c", [⟨"a  Instances: 1  Healthy: 1  Unhealthy: 0  APIs: 0\n[green] b", .healthy, 2, 2, 0, []⟩]⟩
    let v := ((after .html [⟨0, d⟩]).view .html : Id View).run
    Snapshot.decode body = .ok d ∧ v.entries.length = 1 ∧ v.listing? = some v.listing ∧
      lines v.listing = ["client: c",
        "services: 1 total, 1 healthy, 0 unhealthy, 0 unknown",
        "[green] a  Instances: 1  Healthy: 1  Unhealthy: 0  APIs: 0",
        "[green] b  Instances: 2  Healthy: 2  Unhealthy: 0  APIs: 0"] ∧
      ¬ v.TellsByLine := by
  intro body d v
  have hdecode : Snapshot.decode body = .ok d := toOption_eq_some_iff.mp (by decide +kernel)
  have hview : v = _ := view_of_one_service .html 0 d _ rfl
  refine ⟨hdecode, ?_, ?_, ?_, ?_⟩
  · rw [hview]
    rfl
  · rw [hview]
    decide +kernel
  · rw [hview]
    decide +kernel
  · rw [View.tellsByLine_iff, hview]
    intro htells
    exact htells.2 _ List.mem_cons_self (by decide)

end Board

end StatusBoard
