import Mathlib.Algebra.BigOperators.Group.List.Basic
import Mathlib.Algebra.Ring.Nat
import Mathlib.Data.List.Count

/-!
The lines of a text. A line feed ends its line, and what stands behind the last one is a line too,
unless it is empty. Pieces of text that are each ended by a line feed are the lines of the whole as
long as none of them has a line feed in it, and each one that it has makes a line more.
-/
namespace StatusBoard.Text

def cutLines : List Char → List (List Char)
  | [] => []
  | c :: rest =>
    if c = '\n' then [] :: cutLines rest
    else
      match cutLines rest with
      | [] => [[c]]
      | line :: later => (c :: line) :: later

/-- The lines of a text, without the line feeds that end them. -/
def lines (s : String) : List String := (cutLines s.toList).map String.ofList

/-- How many line feeds a text has. -/
def feeds (s : String) : Nat := s.toList.count '\n'

theorem feeds_append (s t : String) : feeds (s ++ t) = feeds s + feeds t := by
  rw [feeds, String.toList_append, List.count_append]
  rfl

theorem feeds_eq_zero_iff (s : String) : feeds s = 0 ↔ '\n' ∉ s.toList :=
  List.count_eq_zero

theorem cutLines_feed (rest : List Char) : cutLines ('\n' :: rest) = [] :: cutLines rest := by
  rw [cutLines, if_pos rfl]

/-- A character goes to the line behind it. -/
theorem cutLines_cons {c : Char} {rest line : List Char} {later : List (List Char)} (hc : c ≠ '\n')
    (hrest : cutLines rest = line :: later) : cutLines (c :: rest) = (c :: line) :: later := by
  rw [cutLines, if_neg hc, hrest]

/-- A text without line feeds is the line that the next line feed ends. -/
theorem cutLines_line {s : List Char} (hs : '\n' ∉ s) (t : List Char) :
    cutLines (s ++ '\n' :: t) = s :: cutLines t := by
  induction s with
  | nil => exact cutLines_feed t
  | cons c rest ih =>
    rw [List.mem_cons, not_or] at hs
    obtain ⟨hc, hrest⟩ := hs
    exact cutLines_cons (Ne.symm hc) (ih hrest)

/-- Up to a line feed there is one line for it and one for each line feed before it. -/
theorem length_cutLines (s t : List Char) :
    (cutLines (s ++ '\n' :: t)).length = s.count '\n' + 1 + (cutLines t).length := by
  induction s with
  | nil =>
    rw [List.nil_append, cutLines_feed, List.length_cons, List.count_nil]
    omega
  | cons c rest ih =>
    by_cases hc : c = '\n'
    · subst hc
      rw [List.cons_append, cutLines_feed, List.length_cons, ih, List.count_cons_self]
      omega
    · obtain ⟨line, later, hcut⟩ : ∃ line later, cutLines (rest ++ '\n' :: t) = line :: later := by
        apply List.exists_cons_of_length_pos
        omega
      rw [hcut] at ih
      rw [List.cons_append, cutLines_cons hc hcut, List.count_cons_of_ne hc, ← ih]
      rfl

/-- The texts one after another, each ended by a line feed. -/
def ended (ts : List String) : String := String.join (ts.map (· ++ "\n"))

theorem toList_ended_cons (t : String) (ts : List String) :
    (ended (t :: ts)).toList = t.toList ++ '\n' :: (ended ts).toList := by
  simp only [ended, String.toList_join, List.map_cons, List.flatMap_cons, String.toList_append,
    List.append_assoc]
  rfl

theorem length_lines_ended (ts : List String) :
    (lines (ended ts)).length = ts.length + (ts.map feeds).sum := by
  rw [lines, List.length_map]
  induction ts with
  | nil => rfl
  | cons t rest ih =>
    rw [toList_ended_cons, length_cutLines, ih, List.length_cons, List.map_cons, List.sum_cons,
      feeds]
    omega

theorem lines_ended {ts : List String} (h : ∀ t ∈ ts, '\n' ∉ t.toList) : lines (ended ts) = ts := by
  induction ts with
  | nil => rfl
  | cons t rest ih =>
    obtain ⟨ht, hrest⟩ := List.forall_mem_cons.mp h
    rw [lines, toList_ended_cons, cutLines_line ht, List.map_cons, String.ofList_toList]
    exact congrArg (t :: ·) (ih hrest)

/-- Only texts without line feeds of their own make as many lines as there are texts. -/
theorem length_lines_ended_eq_iff (ts : List String) :
    (lines (ended ts)).length = ts.length ↔ ∀ t ∈ ts, '\n' ∉ t.toList := by
  rw [length_lines_ended, Nat.add_eq_left, List.sum_eq_zero_iff_forall_eq_nat, List.forall_mem_map]
  exact forall₂_congr fun t _ => feeds_eq_zero_iff t

end StatusBoard.Text
