import StatusBoard.Server.Basic

/-!
The layers around a handler. Whatever the handler answers, and also where none of it answers in
time, a response that comes out of all layers says that it must not be stored, and carries the id
of the request or a fresh one. The layers leave the status and the body alone, and the handler gets
to see the request as it came but for its id.
-/
namespace StatusBoard

namespace Http.Headers

/-- The fields of a name given in lower case. -/
def named (hs : Headers) (name : String) : Headers :=
  hs.filter fun h => Text.asciiLower h.1 = name

theorem value?_eq_named (hs : Headers) (name : String) :
    hs.value? name = (hs.named name).head?.map fun h => bare h.2 := by
  rw [value?, named, List.head?_filter]

variable {name : String} (hname : Text.asciiLower name = name) (hs : Headers) (value : String)
include hname

theorem named_put_self : (hs.put name value).named name = [(name, value)] := by
  have hothers : (hs.filter fun h => Text.asciiLower h.1 ≠ name).filter
      (fun h => Text.asciiLower h.1 = name) = [] := by
    rw [List.filter_filter]
    apply List.filter_eq_nil_iff.mpr
    intro h _
    simp
  rw [put, named, List.filter_append, hothers, List.filter_cons_of_pos (by simpa using hname)]
  rfl

theorem named_put_of_ne {other : String} (hother : other ≠ name) :
    (hs.put name value).named other = hs.named other := by
  have hkept : (hs.filter fun h => Text.asciiLower h.1 ≠ name).filter
      (fun h => Text.asciiLower h.1 = other) = hs.filter fun h => Text.asciiLower h.1 = other := by
    rw [List.filter_filter]
    apply List.filter_congr
    intro h _
    by_cases hh : Text.asciiLower h.1 = other
    · simp [hh, hother]
    · simp [hh]
  have hnew : ¬ Text.asciiLower name = other := by
    rw [hname]
    exact hother.symm
  rw [put, named, List.filter_append, hkept, List.filter_cons_of_neg (by simpa using hnew)]
  exact List.append_nil _

end Http.Headers

namespace Server

open Http (Headers)

namespace Layer

theorem asciiLower_idField : Text.asciiLower idField = idField := by decide

variable (h : Handler) (r : Request)

/-- The handler gets to see a request that has an id: its own, or else the fresh one. -/
theorem exists_assignId (fresh : String) : ∃ headers, assignId fresh h r = h { r with headers } ∧
    headers.value? idField = some ((r.headers.value? idField).getD (Http.bare fresh)) := by
  unfold assignId
  cases hid : r.headers.value? idField with
  | some id => exact ⟨r.headers, rfl, hid⟩
  | none =>
    refine ⟨r.headers.put idField fresh, rfl, ?_⟩
    rw [Headers.value?_eq_named, Headers.named_put_self asciiLower_idField]
    rfl

/-- A response without an id gets that of the request. -/
theorem copyId_eq {id : String} (hid : r.headers.value? idField = some id)
    (hplain : (h r).headers.named idField = []) :
    copyId h r = { h r with headers := (h r).headers.put idField id } := by
  have hnone : (h r).headers.value? idField = none := by
    rw [Headers.value?_eq_named, hplain]
    rfl
  unfold copyId
  simp only [hnone, hid]

end Layer

/-- What the layers make of a response: it must not be stored, and it has an id. -/
structure Response.Sealed (x : Response) (id : String) (inner : Response) : Prop where
  status : x.status = inner.status
  body : x.body = inner.body
  cache_control : x.headers.named "cache-control" = [("cache-control", "no-store")]
  request_id : x.headers.named Layer.idField = [(Layer.idField, id)]

/-- The layers around any handler whose responses have no ids of their own. -/
theorem exists_sealed_layered (h : Handler) (fresh : String) (inTime : Bool) (r : Request)
    (hplain : ∀ r, (Layer.limitTime inTime h r).headers.named Layer.idField = []) :
    ∃ headers, (layered fresh inTime h r).Sealed
      ((r.headers.value? Layer.idField).getD (Http.bare fresh))
      (Layer.limitTime inTime h { r with headers }) := by
  obtain ⟨headers, hassign, hid⟩ := Layer.exists_assignId (Layer.copyId <|
    Layer.setField "cache-control" "no-store" <| Layer.limitTime inTime h) r fresh
  have hcache : Text.asciiLower "cache-control" = "cache-control" := by decide
  have hother : Layer.idField ≠ "cache-control" := by decide
  have hset : ((Layer.setField "cache-control" "no-store" <| Layer.limitTime inTime h)
      { r with headers }).headers.named Layer.idField = [] :=
    (Headers.named_put_of_ne hcache _ "no-store" hother).trans (hplain { r with headers })
  -- the id is copied last, to a response in which caching is forbidden already
  refine ⟨headers, ?_⟩
  unfold layered
  rw [hassign, Layer.copyId_eq _ _ hid hset]
  refine ⟨rfl, rfl, ?_, Headers.named_put_self Layer.asciiLower_idField _ _⟩
  exact (Headers.named_put_of_ne Layer.asciiLower_idField _ _ hother.symm).trans
    (Headers.named_put_self hcache _ "no-store")

end Server

end StatusBoard
