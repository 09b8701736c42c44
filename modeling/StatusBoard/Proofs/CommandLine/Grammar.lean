import StatusBoard.CommandLine.Parser
import StatusBoard.Proofs.Except

/-!
The grammar of command lines. Each option is spelled in one of a few ways, and a line that is
accepted spells a list of options, perhaps with an end of the options behind them. Reading it to the
end comes to the same as putting these options in one after the other.
-/
namespace StatusBoard.Arguments

/-- What one option says. -/
inductive Item where
  | value (p : Parameter) (text : String)
  | once
deriving DecidableEq, Repr

/-- A word that no option looks like. -/
def IsPlain (s : String) : Prop :=
  s = "-" ∨ s.toList.head? ≠ some '-'

/-- The words that an option may be spelled with. -/
inductive Spelling : Item → List String → Prop
  | apart (p : Parameter) (v : String) (hv : IsPlain v) :
      Spelling (.value p v) ["--" ++ p.name, v]
  | attached (p : Parameter) (v : String) : Spelling (.value p v) ["--" ++ p.name ++ "=" ++ v]
  | shortApart (v : String) (hv : IsPlain v) : Spelling (.value .config v) ["-c", v]
  | shortAttached (v : String) (hempty : v ≠ "") (hequal : v.toList.head? ≠ some '=') :
      Spelling (.value .config v) ["-c" ++ v]
  | shortEqual (v : String) : Spelling (.value .config v) ["-c=" ++ v]
  | once : Spelling .once ["--once"]

/-- The words that a list of options may be spelled with, perhaps with an end of the options. -/
inductive Line : List String → List Item → Prop
  | nil : Line [] []
  | stop : Line ["--"] []
  | cons {item : Item} {spelled words : List String} {items : List Item}
      (hitem : Spelling item spelled) (hrest : Line words items) :
      Line (spelled ++ words) (item :: items)

namespace Word

/-- What stands behind the name of an option. -/
def attachment : Option String → String
  | none => ""
  | some v => "=" ++ v

theorem ofLong_eq {cs : List Char} {name : String} {value : Option String}
    (h : ofLong cs = .long name value) : String.ofList cs = name ++ attachment value := by
  have hsplit := List.takeWhile_append_dropWhile (p := (· ≠ '=')) (l := cs)
  unfold ofLong at h
  split at h
  · cases h
    simp [attachment]
  · rename_i c v hdrop
    have hc : c = '=' := by
      have hhead := List.head?_dropWhile_not (fun c : Char => decide (c ≠ '=')) cs
      rw [hdrop] at hhead
      simpa using hhead
    obtain ⟨rfl, rfl⟩ := Word.long.inj h
    rw [hdrop, hc] at hsplit
    rw [← String.toList_inj]
    simp only [attachment, String.toList_append, String.toList_ofList]
    exact hsplit.symm

theorem exists_ofLong (cs : List Char) : ∃ name value, ofLong cs = .long name value := by
  unfold ofLong
  split <;> exact ⟨_, _, rfl⟩

theorem eq_of_endOfOptions {s : String} (h : ofText s = .endOfOptions) : s = "--" := by
  unfold ofText at h
  split at h
  · rename_i hs
    exact String.toList_injective hs
  · rename_i cs _ _
    obtain ⟨name, value, hlong⟩ := exists_ofLong cs
    cases hlong.symm.trans h
  · cases h
  · cases h

theorem eq_of_long {s name : String} {value : Option String} (h : ofText s = .long name value) :
    s = "--" ++ name ++ attachment value := by
  unfold ofText at h
  split at h
  · cases h
  · rename_i cs _ hs
    rw [String.append_assoc, ← ofLong_eq h, ← String.toList_inj, hs]
    simp
  · cases h
  · cases h

theorem eq_of_short {s : String} {letters : List Char} (h : ofText s = .short letters) :
    s = "-" ++ String.ofList letters := by
  unfold ofText at h
  split at h
  · cases h
  · rename_i cs _ _
    obtain ⟨name, value, hlong⟩ := exists_ofLong cs
    cases hlong.symm.trans h
  · rename_i c cs _ hs
    cases h
    rw [← String.toList_inj, hs]
    simp
  · cases h

theorem isPlain_of_plain {s t : String} (h : ofText s = .plain t) : t = s ∧ IsPlain s := by
  unfold ofText at h
  split at h
  · cases h
  · rename_i cs _ _
    obtain ⟨name, value, hlong⟩ := exists_ofLong cs
    cases hlong.symm.trans h
  · cases h
  · rename_i hshort
    cases h
    refine ⟨rfl, ?_⟩
    -- a dash with nothing behind it is all that is left
    cases hs : s.toList with
    | nil => exact Or.inr (by simp [hs])
    | cons c cs =>
      by_cases hc : c = '-'
      · subst hc
        cases cs with
        | nil => exact Or.inl (String.toList_injective hs)
        | cons d ds => exact absurd hs (hshort d ds)
      · exact Or.inr (by simp [hs, hc])

end Word

/-- An option put into what is given so far. -/
def Item.put (a : Arguments) : Item → Except UsageError Arguments
  | .value p v => a.putOnce p v
  | .once => if a.once then .error .repeated else .ok { a with once := true }

namespace Reading

variable {r t : Reading} {s : String} {words : List String} {a : Arguments}

/-- What the words to come have to say so that all of them together give `a`: a waiting option takes
the next word for its value, and a value that waits is put in before theirs. -/
def Leads (r : Reading) (words : List String) (a : Arguments) : Prop :=
  match r.waiting with
  | none => ∃ items, Line words items ∧ items.foldlM Item.put r.given = .ok a
  | some (p, some v) =>
    ∃ items, Line words items ∧ (.value p v :: items).foldlM Item.put r.given = .ok a
  | some (p, none) => ∃ v rest items, words = v :: rest ∧ IsPlain v ∧ Line rest items ∧
    (.value p v :: items).foldlM Item.put r.given = .ok a

/-- Where nothing but a value waits, the items to come are put in after it is looked at. -/
theorem leads_of_settle {given : Arguments} {items : List Item} (h : r.settle = .ok given)
    (hwords : Line words items) (hitems : items.foldlM Item.put given = .ok a) :
    r.Leads words a := by
  obtain ⟨before, waiting⟩ := r
  match waiting with
  | none =>
    cases h
    exact ⟨items, hwords, hitems⟩
  | some (p, some v) =>
    refine ⟨items, hwords, ?_⟩
    rw [List.foldlM_cons, bind_eq_ok_iff]
    exact ⟨given, h, hitems⟩
  | some (p, none) => cases h

theorem leads_of_option {p : Parameter} {value : Option String} (h : r.option p value = .ok t)
    (ht : t.Leads words a)
    (hspelling : match value with
      | none => ∀ v, IsPlain v → Spelling (.value p v) [s, v]
      | some v => Spelling (.value p v) [s]) : r.Leads (s :: words) a := by
  obtain ⟨given, hsettle, h⟩ := bind_eq_ok_iff.mp h
  cases value with
  | none =>
    cases h
    obtain ⟨v, rest, items, rfl, hv, hrest, hitems⟩ := ht
    exact leads_of_settle hsettle (.cons (hspelling v hv) hrest) hitems
  | some v =>
    obtain ⟨later, hput, h⟩ := bind_eq_ok_iff.mp h
    cases h
    obtain ⟨items, hrest, hitems⟩ := ht
    refine leads_of_settle hsettle (.cons hspelling hrest) ?_
    rw [List.foldlM_cons, bind_eq_ok_iff]
    exact ⟨later, hput, hitems⟩

theorem leads_of_once (h : r.once = .ok t) (ht : t.Leads words a) :
    r.Leads ("--once" :: words) a := by
  obtain ⟨given, hsettle, h⟩ := bind_eq_ok_iff.mp h
  split at h
  · cases h
  · rename_i hfresh
    cases h
    obtain ⟨items, hrest, hitems⟩ := ht
    refine leads_of_settle hsettle (.cons .once hrest) ?_
    rw [List.foldlM_cons, bind_eq_ok_iff]
    exact ⟨_, if_neg hfresh, hitems⟩

theorem not_help (h : r.help = .ok t) : False := by
  obtain ⟨given, -, h⟩ := bind_eq_ok_iff.mp h
  cases h

theorem leads_of_long {name : String} {value : Option String} (h : r.long name value = .ok t)
    (ht : t.Leads words a) : r.Leads (("--" ++ name ++ Word.attachment value) :: words) a := by
  unfold long at h
  split at h
  · rename_i p hname
    have hp : p.name = name := by simpa using List.find?_some hname
    subst hp
    refine leads_of_option h ht ?_
    cases value with
    | none =>
      intro v hv
      rw [Word.attachment, String.append_empty]
      exact .apart p v hv
    | some v =>
      rw [Word.attachment, ← String.append_assoc]
      exact .attached p v
  · split at h
    · cases h
    split at h
    · cases h
    rename_i hvalue
    split at h
    · rename_i hname
      have hnone : value = none := by simpa using hvalue
      subst hname hnone
      exact leads_of_once h ht
    · exact (not_help h).elim

theorem leads_of_short {letters : List Char} (h : r.short letters = .ok t) (ht : t.Leads words a) :
    r.Leads (("-" ++ String.ofList letters) :: words) a := by
  unfold short at h
  split at h
  · exact (not_help h).elim
  · exact leads_of_option h ht fun v hv => .shortApart v hv
  · rename_i v
    refine leads_of_option h ht ?_
    have hword : "-" ++ String.ofList ('c' :: '=' :: v) = "-c=" ++ String.ofList v := by
      rw [← String.toList_inj]
      simp
    rw [hword]
    exact .shortEqual _
  · rename_i v hempty hequal
    refine leads_of_option h ht ?_
    have hword : "-" ++ String.ofList ('c' :: v) = "-c" ++ String.ofList v := by
      rw [← String.toList_inj]
      simp
    rw [hword]
    refine .shortAttached _ ?_ ?_
    · rw [Ne, ← String.toList_inj, String.toList_ofList]
      exact hempty
    · rw [String.toList_ofList]
      intro hhead
      obtain ⟨rest, hrest⟩ := List.head?_eq_some_iff.mp hhead
      exact hequal rest hrest
  · cases h

theorem leads_of_plain (h : r.plain s = .ok t) (hs : IsPlain s) (ht : t.Leads words a) :
    r.Leads (s :: words) a := by
  unfold plain at h
  split at h
  · rename_i p hwaiting
    cases h
    obtain ⟨items, hrest, hitems⟩ := ht
    rw [Leads, hwaiting]
    exact ⟨s, words, items, rfl, hs, hrest, hitems⟩
  · cases h

/-- What is read to the end was spelled so. -/
theorem leads_of_finish (h : r.finish words = .ok a) : r.Leads words a := by
  induction words generalizing r with
  | nil => exact leads_of_settle h .nil rfl
  | cons s rest ih =>
    unfold finish at h
    split at h
    · rename_i hs
      split at h
      · rename_i hrest
        rw [hrest, Word.eq_of_endOfOptions hs]
        exact leads_of_settle h .stop rfl
      · cases h
    · rename_i name value hs
      obtain ⟨t, hlong, h⟩ := bind_eq_ok_iff.mp h
      rw [Word.eq_of_long hs]
      exact leads_of_long hlong (ih h)
    · rename_i letters hs
      obtain ⟨t, hshort, h⟩ := bind_eq_ok_iff.mp h
      rw [Word.eq_of_short hs]
      exact leads_of_short hshort (ih h)
    · rename_i plain hs
      obtain ⟨t, hplain, h⟩ := bind_eq_ok_iff.mp h
      obtain ⟨rfl, hs⟩ := Word.isPlain_of_plain hs
      exact leads_of_plain hplain hs (ih h)

end Reading

end StatusBoard.Arguments
