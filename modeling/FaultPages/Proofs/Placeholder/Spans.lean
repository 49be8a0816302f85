import FaultPages.Proofs.Placeholder.Closing
import FaultPages.Proofs.Placeholder.Recording

/-! # Spans — where in a text the placeholders stand

    A scan recurses into pieces of a text and forgets where they came from.
    `visits` follows the same recursion and keeps for each placeholder where it
    opens and where it ends in the whole text.  The ends grow along the way
    (`pairwise_visits`), and between them stand the raw texts that the scan hands
    out (`map_slice_visits`). -/

namespace FaultPages

/-- Where a placeholder stands in a text: the byte offsets of its opening and of
    its closing delimiter. -/
structure Span where
  start : Nat
  stop : Nat
  deriving DecidableEq, Repr

/-- A span in a text that has so many bytes more in front. -/
def Span.shift (n : Nat) (s : Span) : Span := ⟨n + s.start, n + s.stop⟩

namespace Delimiters

open Text

-- ── Where a scan goes ────────────────────────────────────────────────────────────

/-- Where what the first placeholder holds begins. -/
def rawStart (d : Delimiters) (token : Token) : Nat :=
  byteLength token.before + byteLength d.opening

/-- Where the first placeholder ends. -/
def rawStop (d : Delimiters) (token : Token) : Nat := d.rawStart token + byteLength token.raw

/-- Where what follows the first placeholder begins. -/
def restStart (d : Delimiters) (token : Token) : Nat := d.rawStop token + byteLength d.closing

/-- The spans of the placeholders in the order of visiting. -/
def visits (d : Delimiters) (t : Text) : List Span :=
  match _found : d.firstToken? t with
  | none => []
  | some token =>
    (d.visits token.raw).map (Span.shift (d.rawStart token)) ++
      ⟨byteLength token.before, d.rawStop token⟩ ::
        (d.visits token.rest).map (Span.shift (d.restStart token))
termination_by t.length
decreasing_by
  · exact firstToken?_raw_length _found
  · exact firstToken?_rest_length _found

variable {d : Delimiters} {t : Text} {token : Token}

theorem visits_of_none (h : d.firstToken? t = none) : d.visits t = [] := by
  rw [visits]
  split
  · rfl
  · simp_all

theorem visits_of_some (h : d.firstToken? t = some token) :
    d.visits t = (d.visits token.raw).map (Span.shift (d.rawStart token)) ++
      ⟨byteLength token.before, d.rawStop token⟩ ::
        (d.visits token.rest).map (Span.shift (d.restStart token)) := by
  rw [visits]
  split <;> simp_all

theorem firstToken?_parts (h : d.firstToken? t = some token) :
    t = token.before ++ d.opening ++ (token.raw ++ (d.closing ++ token.rest)) := by
  rw [← cutBefore_append (firstToken?_eq_some.mp h).1, List.append_assoc]

theorem byteLength_of_some (h : d.firstToken? t = some token) :
    byteLength t = d.restStart token + byteLength token.rest := by
  rw [firstToken?_parts h, restStart, rawStop, rawStart]
  simp only [byteLength_append]
  omega

/-- Every placeholder ends within the text. -/
theorem stop_lt_of_mem_visits {s : Span} (h : s ∈ d.visits t) : s.stop < byteLength t := by
  induction t using token_induction d generalizing s with
  | plain t found =>
      rw [visits_of_none found] at h
      exact absurd h List.not_mem_nil
  | token t token found ihraw ihrest =>
      have hlen := byteLength_of_some found
      have hclosing := byteLength_pos d.closing_ne
      rw [visits_of_some found] at h
      rw [restStart, rawStop] at hlen
      rcases List.mem_append.mp h with hraw | hrest
      · obtain ⟨s, hs, rfl⟩ := List.mem_map.mp hraw
        have := ihraw hs
        show d.rawStart token + s.stop < _
        omega
      · rcases List.mem_cons.mp hrest with rfl | hrest
        · show d.rawStart token + byteLength token.raw < _
          omega
        · obtain ⟨s, hs, rfl⟩ := List.mem_map.mp hrest
          have := ihrest hs
          show d.rawStart token + byteLength token.raw + byteLength d.closing + s.stop < _
          omega

/-- Placeholders are visited by where they end. -/
theorem pairwise_visits (d : Delimiters) (t : Text) :
    (d.visits t).Pairwise fun s s' => s.stop < s'.stop := by
  induction t using token_induction d with
  | plain t found =>
      rw [visits_of_none found]
      exact .nil
  | token t token found ihraw ihrest =>
      have hclosing := byteLength_pos d.closing_ne
      have hshift : ∀ n spans, List.Pairwise (fun s s' : Span => s.stop < s'.stop) spans →
          (spans.map (Span.shift n)).Pairwise fun s s' => s.stop < s'.stop := by
        intro n spans hspans
        rw [List.pairwise_map]
        exact hspans.imp fun h => Nat.add_lt_add_left h n
      have hraw : ∀ s ∈ (d.visits token.raw).map (Span.shift (d.rawStart token)),
          s.stop < d.rawStop token := by
        intro s hs
        obtain ⟨s, hin, rfl⟩ := List.mem_map.mp hs
        exact Nat.add_lt_add_left (stop_lt_of_mem_visits hin) _
      have hrest : ∀ s ∈ (d.visits token.rest).map (Span.shift (d.restStart token)),
          d.rawStop token < s.stop := by
        intro s hs
        obtain ⟨s, hs, rfl⟩ := List.mem_map.mp hs
        show _ < d.rawStop token + byteLength d.closing + s.stop
        omega
      rw [visits_of_some found, List.pairwise_append, List.pairwise_cons]
      refine ⟨hshift _ _ ihraw, ⟨hrest, hshift _ _ ihrest⟩, fun s hs s' hs' => ?_⟩
      rcases List.mem_cons.mp hs' with rfl | hs'
      · exact hraw s hs
      · exact Nat.lt_trans (hraw s hs) (hrest s' hs')

/-- What a placeholder holds stands between its delimiters. -/
theorem map_slice_visits (d : Delimiters) (t : Text) :
    (d.visits t).map (fun s => slice t (s.start + byteLength d.opening) s.stop)
      = (d.raws t).map utf8 := by
  induction t using token_induction d with
  | plain t found => rw [visits_of_none found, raws_of_none found]; rfl
  | token t token found ihraw ihrest =>
      have hparts := firstToken?_parts found
      have hfront : byteLength (token.before ++ d.opening) = d.rawStart token :=
        byteLength_append ..
      have hinside : ∀ i j, j ≤ byteLength token.raw →
          slice t (d.rawStart token + i) (d.rawStart token + j) = slice token.raw i j := by
        intro i j hj
        rw [hparts, ← hfront, slice_append_left, slice_append_right hj]
      have hbehind : ∀ i j, slice t (d.restStart token + i) (d.restStart token + j)
          = slice token.rest i j := by
        intro i j
        have hstart : d.restStart token
            = byteLength (token.before ++ d.opening ++ (token.raw ++ d.closing)) := by
          rw [byteLength_append, hfront, byteLength_append, restStart, rawStop, Nat.add_assoc]
        rw [hparts, ← List.append_assoc token.raw, ← List.append_assoc, hstart,
          slice_append_left]
      rw [visits_of_some found, raws_of_some found, List.map_append, List.map_append,
        List.map_cons, List.map_cons, ← ihraw, ← ihrest, List.map_map, List.map_map]
      refine congr (congrArg _ (List.map_congr_left fun s hs => ?_))
        (congr (congrArg _ ?_) (List.map_congr_left fun s _ => ?_))
      · show slice t (d.rawStart token + s.start + byteLength d.opening)
          (d.rawStart token + s.stop) = _
        rw [Nat.add_assoc, hinside _ _ (Nat.le_of_lt (stop_lt_of_mem_visits hs))]
      · show slice t (d.rawStart token) (d.rawStart token + byteLength token.raw) = _
        exact (hinside 0 _ (Nat.le_refl _)).trans (slice_zero _)
      · show slice t (d.restStart token + s.start + byteLength d.opening)
          (d.restStart token + s.stop) = _
        rw [Nat.add_assoc, hbehind]

end Delimiters

end FaultPages
