import StatusBoard.Proofs.Json.Writing

/-!
A text tells the value that it was written for. It is a document of one draft only, and two values
with the same draft are the same: a number is told by its digits, and a text, an array or an object
by what it is made of.
-/
namespace StatusBoard.Json

theorem Numeral.ofNat_inj {m n : Nat} (h : Numeral.ofNat m = .ofNat n) : m = n := by
  have hdigits : decimal m = decimal n := (Numeral.mk.inj h).2.1
  rw [← value_decimal m, hdigits, value_decimal]

namespace Value

mutual

theorem draft_inj : (v w : Value) → v.draft = w.draft → v = w
  | .null, w, h => by
    cases w with
    | null => rfl
    | _ => exact Draft.noConfusion h
  | .bool a, w, h => by
    cases w with
    | bool b => exact congrArg bool (Draft.bool.inj h)
    | _ => exact Draft.noConfusion h
  | .number m, w, h => by
    cases w with
    | number n => exact congrArg number (Numeral.ofNat_inj (Draft.number.inj h))
    | _ => exact Draft.noConfusion h
  | .string s, w, h => by
    cases w with
    | string t => exact congrArg string (Option.some.inj (Draft.string.inj h))
    | _ => exact Draft.noConfusion h
  | .array vs, w, h => by
    cases w with
    | array ws => exact congrArg array (drafts_inj vs ws (Draft.array.inj h).1)
    | _ => exact Draft.noConfusion h
  | .object ms, w, h => by
    cases w with
    | object ns => exact congrArg object (memberDrafts_inj ms ns (Draft.object.inj h).1)
    | _ => exact Draft.noConfusion h

theorem drafts_inj : (vs ws : List Value) → drafts vs = drafts ws → vs = ws
  | [], [], _ => rfl
  | v :: vs, w :: ws, h => by
    obtain ⟨hhead, htail⟩ := List.cons.inj h
    rw [draft_inj v w hhead, drafts_inj vs ws htail]
  | [], _ :: _, h => absurd h.symm (List.cons_ne_nil _ _)
  | _ :: _, [], h => absurd h (List.cons_ne_nil _ _)

theorem memberDrafts_inj :
    (ms ns : List (String × Value)) → memberDrafts ms = memberDrafts ns → ms = ns
  | [], [], _ => rfl
  | (j, v) :: ms, (k, w) :: ns, h => by
    obtain ⟨hhead, htail⟩ := List.cons.inj h
    obtain ⟨hkey, hvalue⟩ := Prod.mk.inj hhead
    rw [Option.some.inj hkey, draft_inj v w hvalue, memberDrafts_inj ms ns htail]
  | [], _ :: _, h => absurd h.symm (List.cons_ne_nil _ _)
  | _ :: _, [], h => absurd h (List.cons_ne_nil _ _)

end

/-- Equal texts are texts of equal values. -/
theorem text_inj {v w : Value} (h : v.text = w.text) : v = w := by
  have hv : IsDocument v.draft v.text.toUTF8.toList := v.isDocument_text
  have hw : IsDocument w.draft v.text.toUTF8.toList := h ▸ w.isDocument_text
  exact draft_inj v w (hv.unique hw)

end Value

end StatusBoard.Json
