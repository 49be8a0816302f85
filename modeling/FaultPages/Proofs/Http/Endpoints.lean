import FaultPages.Proofs.Http.Router

/-! # Endpoints — to which handler a method is left

    An endpoint leaves a method to its handler of all methods if it has none of the
    method's own (`LeavesTo`).  Merging keeps that: the handlers of both endpoints are
    there afterwards, no two of them for the same method (`lookup_merge?`), and at most one
    for all methods (`any_merge?`). -/

namespace FaultPages.Http

namespace Endpoint

variable {e a b : Endpoint} {method : Text} {handler : Handler}

-- ── Methods without a handler of their own ───────────────────────────────────────

/-- An endpoint has no handler of its own for a method. -/
structure Lacks (e : Endpoint) (method : Text) : Prop where
  own : e.handlers.lookup method = none
  head : method = "HEAD".toList → e.handlers.lookup "GET".toList = none

/-- An endpoint leaves a method to its handler of all methods. -/
structure LeavesTo (e : Endpoint) (method : Text) (handler : Handler) : Prop extends
    e.Lacks method where
  any : e.any = some handler

theorem LeavesTo.answer (h : e.LeavesTo method handler) {request : Request}
    (hmethod : request.method = method) : e.answer request = handler request := by
  have hget : (if method = "HEAD".toList then e.handlers.lookup "GET".toList else none) = none := by
    split
    · rename_i hhead
      exact h.head hhead
    · rfl
  rw [Endpoint.answer, hmethod, h.own]
  simp only [hget, h.any]

theorem leavesTo_ofAny (handler : Handler) (method : Text) :
    (ofAny handler).LeavesTo method handler where
  any := rfl
  own := rfl
  head _ := rfl

theorem LeavesTo.layer (h : e.LeavesTo method handler) (f : Handler → Handler) :
    (e.layer f).LeavesTo method (f handler) where
  any := congrArg (Option.map f) h.any
  own := by
    rw [lookup_layer, h.own]
    rfl
  head hhead := by
    rw [lookup_layer, h.head hhead]
    rfl

/-- A handler for `GET` takes nothing but `GET` and `HEAD`. -/
theorem lacks_on_get (handler : Handler) (hget : method ≠ "GET".toList)
    (hhead : method ≠ "HEAD".toList) : (on "GET".toList handler).Lacks method where
  own := by
    rw [on, List.lookup_cons, beq_false_of_ne hget]
    rfl
  head h := absurd h hhead

-- ── Merging ──────────────────────────────────────────────────────────────────────

/-- The handlers of the first endpoint come before those of the second. -/
theorem lookup_merge? (hmerge : a.merge? b = some e) (method : Text) :
    e.handlers.lookup method = (a.handlers.lookup method).or (b.handlers.lookup method) := by
  rw [merge?] at hmerge
  split at hmerge
  · cases hmerge
  · cases hmerge
    exact List.lookup_append

/-- Endpoints that are merged have no method in common. -/
theorem lookup_eq_none_of_merge? (hmerge : a.merge? b = some e)
    (hb : b.handlers.lookup method = some handler) : a.handlers.lookup method = none := by
  cases ha : a.handlers.lookup method with
  | none => rfl
  | some other =>
      rw [merge?] at hmerge
      split at hmerge
      · cases hmerge
      · rename_i hnone
        obtain ⟨before, after, hmem, -⟩ := List.lookup_eq_some_iff.mp ha
        obtain ⟨before', after', hmem', -⟩ := List.lookup_eq_some_iff.mp hb
        simp [hmem, hmem'] at hnone

/-- Nor do both have a handler of all methods. -/
theorem any_merge? (hmerge : a.merge? b = some e) :
    e.any = (a.any <|> b.any) ∧ (a.any = none ∨ b.any = none) := by
  rw [merge?] at hmerge
  split at hmerge
  · cases hmerge
  · rename_i hnone
    cases hmerge
    refine ⟨rfl, ?_⟩
    cases ha : a.any with
    | none => exact .inl rfl
    | some f =>
        cases hb : b.any with
        | none => exact .inr rfl
        | some g =>
            rw [ha, hb] at hnone
            simp at hnone

theorem Lacks.merge? (ha : a.Lacks method) (hb : b.Lacks method) (hmerge : a.merge? b = some e) :
    e.Lacks method where
  own := by
    rw [lookup_merge? hmerge, ha.own, hb.own]
    rfl
  head hhead := by
    rw [lookup_merge? hmerge, ha.head hhead, hb.head hhead]
    rfl

/-- What is merged into an endpoint leaves to its handler of all methods what it lacks
    itself. -/
theorem LeavesTo.merge? (ha : a.LeavesTo method handler) (hb : b.Lacks method)
    (hmerge : a.merge? b = some e) : e.LeavesTo method handler where
  toLacks := ha.toLacks.merge? hb hmerge
  any := by
    rw [(any_merge? hmerge).1, ha.any]
    rfl

/-- The same holds where the handler of all methods is merged into something else. -/
theorem Lacks.merge?_leavesTo (ha : a.Lacks method) (hb : b.LeavesTo method handler)
    (hmerge : a.merge? b = some e) : e.LeavesTo method handler where
  toLacks := ha.merge? hb.toLacks hmerge
  any := by
    obtain ⟨hany, hnone⟩ := any_merge? hmerge
    rcases hnone with hnone | hnone
    · rw [hany, hnone, hb.any]
      rfl
    · rw [hb.any] at hnone
      cases hnone

end Endpoint

end FaultPages.Http
