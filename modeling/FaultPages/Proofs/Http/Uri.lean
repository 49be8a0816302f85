import FaultPages.Http.Uri
import FaultPages.Proofs.Text.Cutting

/-! # URIs — what a rooted text reads as

    What is read has only characters of a path in its path and characters of a
    query in its query (`wellFormed_of_parse?`).

    A text that begins with a slash has neither scheme nor authority.  Without a
    question mark or a number sign in its path, its parts are read as they were
    put together (`parse?_rooted`), if their characters are those of a path and a
    query (`parse?_of_chars`). -/

namespace FaultPages.Http.Uri

-- ── Characters ───────────────────────────────────────────────────────────────────

/-- A URI whose path and query have the characters of such. -/
structure WellFormed (u : Uri) : Prop where
  path : ∀ c ∈ u.path, isPathChar c = true
  query : ∀ q ∈ u.query, ∀ c ∈ q, isQueryChar c = true

theorem wellFormed_of_pathAndQuery? {t path : Text} {query : Option Text}
    (h : pathAndQuery? t = some (path, query)) (scheme authority : Option Text) :
    WellFormed ⟨scheme, authority, path, query⟩ := by
  simp only [pathAndQuery?] at h
  split at h
  · rename_i hchars
    obtain ⟨hpath, hquery⟩ := Bool.and_eq_true_iff.mp hchars
    obtain ⟨rfl, rfl⟩ := Prod.mk.inj (Option.some.inj h)
    refine ⟨List.all_eq_true.mp hpath, fun q hq => ?_⟩
    replace hq : _ = some q := hq
    rw [show Text.cutAt '?' _ = (_, some q) from Prod.ext rfl hq] at hquery
    exact List.all_eq_true.mp hquery
  · cases h

/-- What is read is well formed. -/
theorem wellFormed_of_parse? {t : Text} {uri : Uri} (h : parse? t = some uri) : uri.WellFormed := by
  rw [parse?] at h
  split at h
  · cases h
  · split at h
    · rename_i hstar
      obtain rfl := Option.some.inj h
      refine ⟨?_, fun q hq => absurd hq (Option.not_mem_none q)⟩
      rw [hstar]
      exact List.forall_mem_singleton.mpr (by decide)
    · split at h
      · obtain ⟨⟨path, query⟩, hparts, rfl⟩ := Option.map_eq_some_iff.mp h
        exact wellFormed_of_pathAndQuery? hparts none none
      · split at h
        · cases h
        · split at h
          · obtain rfl := Option.some.inj h
            exact ⟨fun c hc => absurd hc List.not_mem_nil,
              fun q hq => absurd hq (Option.not_mem_none q)⟩
          · cases h
        · split at h
          · obtain ⟨⟨path, query⟩, hparts, rfl⟩ := Option.map_eq_some_iff.mp h
            obtain ⟨hpath, hquery⟩ := wellFormed_of_pathAndQuery? hparts none none
            refine ⟨?_, hquery⟩
            show ∀ c ∈ (if path = [] then ['/'] else path), isPathChar c = true
            split
            · exact List.forall_mem_singleton.mpr (by decide)
            · exact hpath
          · cases h

/-- No path has a question mark. -/
theorem mark_not_mem {path : Text} (h : ∀ c ∈ path, isPathChar c = true) : '?' ∉ path :=
  fun hmem => absurd (h _ hmem) (by decide)

/-- No path has a number sign. -/
theorem sign_not_mem {path : Text} (h : ∀ c ∈ path, isPathChar c = true) : '#' ∉ path :=
  fun hmem => absurd (h _ hmem) (by decide)

/-- No query has a number sign. -/
theorem sign_not_mem_query {query : Text} (h : ∀ c ∈ query, isQueryChar c = true) : '#' ∉ query :=
  fun hmem => absurd (h _ hmem) (by decide)

-- ── Rooted texts ─────────────────────────────────────────────────────────────────

/-- A query as it stands in a URI. -/
def queryText : Option Text → Text
  | some query => '?' :: query
  | none => []

/-- A rooted path with a query is cut into the two, unless it is too long. -/
theorem parse?_append_queryText {path : Text} {query : Option Text}
    (hroot : path.head? = some '/') (hmark : '?' ∉ path) (hsign : '#' ∉ path)
    (hquery : ∀ q ∈ query, '#' ∉ q) :
    parse? (path ++ queryText query)
      = if lengthLimit < Text.byteLength (path ++ queryText query) then none
        else if path.all isPathChar && query.all (·.all isQueryChar)
          then some ⟨none, none, path, query⟩ else none := by
  obtain ⟨rest, rfl⟩ := List.head?_eq_some_iff.mp hroot
  have hplain : '#' ∉ ('/' :: rest) ++ queryText query := by
    rw [List.mem_append, not_or]
    refine ⟨hsign, ?_⟩
    cases query with
    | none => exact List.not_mem_nil
    | some q =>
        rw [queryText, List.mem_cons, not_or]
        exact ⟨by decide, hquery q rfl⟩
  have hparts : Text.cutAt '?' (('/' :: rest) ++ queryText query) = ('/' :: rest, query) := by
    cases query with
    | none => rw [queryText, List.append_nil, Text.cutAt_of_not_mem hmark]
    | some q => exact Text.cutAt_append hmark
  have hnil : ('/' :: rest) ++ queryText query ≠ [] := List.cons_ne_nil _ _
  have hstar : ('/' :: rest) ++ queryText query ≠ ['*'] := by
    rw [List.cons_append]
    intro heq
    exact absurd (List.head_eq_of_cons_eq heq) (by decide)
  rw [parse?]
  refine if_congr (or_iff_right hnil) rfl ?_
  rw [if_neg hstar, if_pos (show (('/' :: rest) ++ queryText query).head? = some '/' from rfl),
    pathAndQuery?, Text.cutAt_of_not_mem hplain]
  simp only [hparts]
  exact apply_ite _ _ _ _

/-- What a rooted path with a query reads as, if it is read at all. -/
theorem parse?_rooted {path : Text} {query : Option Text} {uri : Uri}
    (hroot : path.head? = some '/') (hmark : '?' ∉ path) (hsign : '#' ∉ path)
    (hquery : ∀ q ∈ query, '#' ∉ q) (h : parse? (path ++ queryText query) = some uri) :
    uri = ⟨none, none, path, query⟩ := by
  rw [parse?_append_queryText hroot hmark hsign hquery] at h
  split at h
  · cases h
  · split at h
    · exact (Option.some.inj h).symm
    · cases h

/-- A rooted path with a query is read if both have the characters of such and they are
    not too long. -/
theorem parse?_of_chars {path : Text} {query : Option Text} (hroot : path.head? = some '/')
    (hpath : ∀ c ∈ path, isPathChar c = true) (hquery : ∀ q ∈ query, ∀ c ∈ q, isQueryChar c = true)
    (hlength : Text.byteLength (path ++ queryText query) ≤ lengthLimit) :
    parse? (path ++ queryText query) = some ⟨none, none, path, query⟩ := by
  have hchars : (path.all isPathChar && query.all (·.all isQueryChar)) = true := by
    rw [Bool.and_eq_true, List.all_eq_true]
    refine ⟨hpath, ?_⟩
    cases query with
    | none => rfl
    | some q => exact List.all_eq_true.mpr (hquery q rfl)
  rw [parse?_append_queryText hroot (mark_not_mem hpath) (sign_not_mem hpath)
    (fun q hq => sign_not_mem_query (hquery q hq)), if_neg (not_lt.mpr hlength), if_pos hchars]

/-- Nothing is read that is too long. -/
theorem byteLength_of_parse? {t : Text} {uri : Uri} (h : parse? t = some uri) :
    Text.byteLength t ≤ lengthLimit := by
  rw [parse?] at h
  split at h
  · cases h
  · rename_i hlength
    exact not_lt.mp (not_or.mp hlength).2

/-- Below a base, a query stays as it is. -/
theorem query_below? (base : Text) (u : Uri) : ((u.below? base).getD u).query = u.query := by
  rw [below?]
  cases matchedLength? (Text.splitOn '/' u.path).tail (Text.splitOn '/' base).tail with
  | none => rfl
  | some n => rfl

end FaultPages.Http.Uri
