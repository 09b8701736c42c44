import Mathlib.Data.List.Forall2
import Mathlib.Order.Bounds.Basic
import StatusBoard.Board.Listing
import StatusBoard.Proofs.Text.Utf8

/-!
The listing as a table. The column of names is as wide in characters as the longest name is long in
bytes. A text has no more characters than bytes, so no name overflows this column, and what stands
behind it begins at one place in all rows, whatever characters the names are made of.
-/
namespace StatusBoard

namespace View

/-- A text in a column: the whole text, then blanks up to the width in characters. -/
def Fills (width : Nat) (s field : String) : Prop :=
  field.length = width ∧ ∃ blanks, field = s ++ blanks ∧ ∀ c ∈ blanks.toList, c = ' '

/-- What a row says behind the word for the instances. -/
def figures (e : EntryView) : String :=
  s!"{e.instances}  Healthy: {e.healthy}  Unhealthy: {e.unhealthy}  APIs: {e.apis.length}\n"

/-- A row of the listing, whose columns are the colour, the name and the figures. -/
def InColumns (width : Nat) (e : EntryView) (row : String) : Prop :=
  ∃ colour name, Fills 5 e.indicator.word colour ∧ Fills width e.name name ∧
    row = "[" ++ colour ++ "] " ++ name ++ "  Instances: " ++ figures e

theorem fills_padded {width : Nat} {s : String} (h : s.length ≤ width) :
    Fills width s (padded width s) := by
  refine ⟨?_, String.ofList (List.replicate (width - s.length) ' '), rfl, ?_⟩
  · show (s ++ String.ofList (List.replicate (width - s.length) ' ')).length = width
    rw [String.length_append, String.length_ofList, List.length_replicate]
    omega
  · intro c hc
    rw [String.toList_ofList] at hc
    exact List.eq_of_mem_replicate hc

theorem length_word_le (i : Indicator) : i.word.length ≤ 5 := by
  cases i <;> decide

theorem inColumns_row {width : Nat} {e : EntryView} (h : e.name.length ≤ width) :
    InColumns width e (row width e) := by
  refine ⟨padded 5 e.indicator.word, padded width e.name, fills_padded (length_word_le _),
    fills_padded h, ?_⟩
  simp only [row, figures, String.append_assoc]
  rfl

/-- The columns before the word for the instances have a width of their own, so it stands at one
place in all rows. -/
theorem InColumns.instances_at {width : Nat} {e : EntryView} {row : String}
    (h : InColumns width e row) : "  Instances: ".toList <+: row.toList.drop (width + 8) := by
  obtain ⟨colour, name, ⟨hcolour, -⟩, ⟨hname, -⟩, rfl⟩ := h
  have hbefore : (("[" ++ colour ++ "] " ++ name).toList).length = width + 8 := by
    have hopen : "[".length = 1 := rfl
    have hclose : "] ".length = 2 := rfl
    simp only [String.length_toList, String.length_append, hcolour, hname, hopen, hclose]
    omega
  rw [String.toList_append, String.toList_append, List.append_assoc, ← hbefore,
    List.drop_left]
  exact List.prefix_append _ _

/-- The width of the column is the length of the longest name, in bytes. -/
theorem isGreatest_nameWidth (v : View) (h : v.entries ≠ []) :
    IsGreatest {n | ∃ e ∈ v.entries, e.name.utf8ByteSize = n} v.nameWidth := by
  have hnames : v.entries.map (·.name.utf8ByteSize) ≠ [] := mt List.map_eq_nil_iff.mp h
  have hmax : (v.entries.map (·.name.utf8ByteSize)).max? = some v.nameWidth := by
    rw [nameWidth, List.foldl_max, List.max?_eq_some_max hnames, Option.getD_some, Nat.zero_max]
  obtain ⟨hmem, hle⟩ := List.max?_eq_some_iff.mp hmax
  refine ⟨List.mem_map.mp hmem, ?_⟩
  rintro n ⟨e, he, rfl⟩
  exact hle _ (List.mem_map_of_mem he)

theorem nameWidth_le_iff (v : View) (n : Nat) :
    v.nameWidth ≤ n ↔ ∀ e ∈ v.entries, e.name.utf8ByteSize ≤ n := by
  by_cases h : v.entries = []
  · have hzero : v.nameWidth = 0 := by
      rw [nameWidth, h]
      rfl
    rw [hzero, h]
    exact iff_of_true (Nat.zero_le n) (List.forall_mem_nil _)
  · rw [isLUB_le_iff (v.isGreatest_nameWidth h).isLUB, mem_upperBounds]
    constructor
    · intro hall e he
      exact hall _ ⟨e, he, rfl⟩
    · rintro hall _ ⟨e, he, rfl⟩
      exact hall e he

/-- A board has a text as long as no name is longer than the limit. -/
theorem listing?_eq (v : View) :
    v.listing? =
      if ∀ e ∈ v.entries, e.name.utf8ByteSize ≤ 65535 then some v.listing else none :=
  if_congr (v.nameWidth_le_iff widthLimit) rfl rfl

/-- No name has more characters than the column is wide. -/
theorem length_name_le (v : View) {e : EntryView} (he : e ∈ v.entries) :
    e.name.length ≤ v.nameWidth := by
  have hbytes : e.name.utf8ByteSize ≤ v.nameWidth :=
    (v.isGreatest_nameWidth (List.ne_nil_of_mem he)).2 ⟨e, he, rfl⟩
  exact Nat.le_trans (length_le_utf8ByteSize e.name) hbytes

theorem inColumns_rows (v : View) :
    List.Forall₂ (InColumns v.nameWidth) v.entries (v.entries.map (row v.nameWidth)) := by
  apply List.forall₂_map_right_iff.mpr
  apply List.forall₂_same.mpr
  intro e he
  exact inColumns_row (v.length_name_le he)

/-- There is a listing unless a name is too long. Behind the lines on the client and the counts it
has one row for each entry, in the order of the view. All names stand in full in a column that is as
wide in characters as the longest of them is long in bytes, and the word behind it begins at one
place in all rows. -/
theorem listing_in_columns (v : View) :
    (v.listing? =
      if ∀ e ∈ v.entries, e.name.utf8ByteSize ≤ 65535 then some v.listing else none) ∧
    ∃ (width : Nat) (rows : List String),
      v.listing = "client: " ++ v.clientId.getD "-" ++ "\n" ++
        s!"services: {v.counts.total} total, {v.counts.healthy} healthy, " ++
        s!"{v.counts.unhealthy} unhealthy, {v.counts.unknown} unknown\n" ++ String.join rows ∧
      List.Forall₂ (InColumns width) v.entries rows ∧
      (v.entries ≠ [] → IsGreatest {n | ∃ e ∈ v.entries, e.name.utf8ByteSize = n} width) ∧
      ∀ row ∈ rows, "  Instances: ".toList <+: row.toList.drop (width + 8) := by
  have hrows := v.inColumns_rows
  refine ⟨v.listing?_eq, v.nameWidth, v.entries.map (row v.nameWidth), ?_, hrows,
    v.isGreatest_nameWidth, ?_⟩
  · show v.clientLine ++ countsLine v.counts ++ String.join (v.entries.map (row v.nameWidth)) = _
    unfold clientLine countsLine
    simp only [String.append_assoc]
  · intro text htext
    obtain ⟨e, he, rfl⟩ := List.mem_map.mp htext
    exact (inColumns_row (v.length_name_le he)).instances_at

end View

end StatusBoard
