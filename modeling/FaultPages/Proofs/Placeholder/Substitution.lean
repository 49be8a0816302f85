import FaultPages.Proofs.Placeholder.Recording
import FaultPages.Proofs.Text.Bytes

/-! # Substitution — what a scan puts in the place of placeholders

    A scan takes a text apart and never what a resolver answers.  So a rebuilt
    text is the text with other words for its outer placeholders
    (`Substituted`), and what a resolver sees of a placeholder is the raw text
    rebuilt in the same way (`Transcript.inside_of_split`).  With a state, the
    notes of a run are all that happens in it (`run_mapM_asked`), and which
    placeholders they are about no answer can change (`scan_substitutes`).

    A resolver that puts the delimiters back changes nothing (`scan_wrap`). -/

namespace FaultPages.Delimiters

variable {d : Delimiters} {t : Text} {token : Token}

-- ── Outer placeholders ───────────────────────────────────────────────────────────

/-- A text with other words for its outer placeholders.  The notes are those of
    all its placeholders in the order of visiting. -/
structure Substituted (d : Delimiters) (t output : Text) (notes : List Answered) : Prop where
  raws_eq : notes.map Answered.raw = d.raws t
  /-- No piece of the text holds a placeholder. -/
  plain : ∀ piece ∈ d.literals t, d.firstToken? piece = none
  /-- Between any two pieces there is one. -/
  length_eq : (d.topLevel t notes).length + 1 = (d.literals t).length
  source_eq : t = interleave (d.literals t) ((d.topLevel t notes).map fun a => d.wrap a.raw)
  output_eq : output = interleave (d.literals t) ((d.topLevel t notes).map Answered.written)

/-- The pieces of a text hold no placeholders. -/
theorem firstToken?_of_mem_literals {piece : Text} (h : piece ∈ d.literals t) :
    d.firstToken? piece = none := by
  induction t using token_induction d with
  | plain t found =>
      rw [literals_of_none found, List.mem_singleton] at h
      rw [h]
      exact found
  | token t token found ihraw ihrest =>
      rw [literals_of_some found] at h
      rcases List.mem_cons.mp h with rfl | hrest
      · have hcut := (firstToken?_eq_some.mp found).1
        rw [← Text.cutBefore_append hcut] at hcut
        exact firstToken?_eq_none.mpr (.inl (Text.cutBefore_before d.opening_ne hcut))
      · exact ihrest hrest

namespace Transcript

variable {answers : Placeholder → Option Text → Prop} {output : Text} {notes : List Answered}

/-- The pieces of a text with its outer placeholders in between are the text. -/
theorem source_eq (h : Transcript d answers t output notes) :
    t = interleave (d.literals t) ((d.topLevel t notes).map fun a => d.wrap a.raw) := by
  induction h with
  | plain found => simp [literals_of_none found, topLevel_of_none found, interleave]
  | token found inside _ _ _ ihbehind =>
      rw [literals_of_some found,
        topLevel_of_some found (by rw [← inside.map_raw, List.length_map]), List.map_cons,
        interleave, ← ihbehind]
      exact (firstToken?_append found).symm

theorem substituted (h : Transcript d answers t output notes) : d.Substituted t output notes where
  raws_eq := h.map_raw
  plain _ := firstToken?_of_mem_literals
  length_eq := length_topLevel (by rw [← h.map_raw, List.length_map])
  source_eq := h.source_eq
  output_eq := h.output_eq

/-- The text of a placeholder is what a scan of its raw text leaves, and the notes
    of that scan are the last ones before its own. -/
theorem inside_of_split (h : Transcript d answers t output notes) {before after : List Answered}
    {a : Answered} (hsplit : notes = before ++ a :: after) :
    ∃ front inside, before = front ++ inside ∧
      Transcript d answers a.raw a.placeholder.text inside := by
  induction h generalizing before after with
  | plain found => exact absurd (congrArg List.length hsplit) (by simp)
  | token found inside own behind ihinside ihbehind =>
      rcases List.append_eq_append_iff.mp hsplit with ⟨more, rfl, hmore⟩ | ⟨more, rfl, hmore⟩
      · cases more with
        | nil =>
            obtain ⟨rfl, -⟩ := List.cons.inj hmore
            exact ⟨[], _, (List.append_nil _).trans (List.nil_append _).symm, inside⟩
        | cons x more =>
            obtain ⟨-, hbehind⟩ := List.cons.inj hmore
            obtain ⟨front, within, rfl, htext⟩ := ihbehind hbehind
            exact ⟨_, within, by rw [← List.cons_append, ← List.append_assoc], htext⟩
      · cases more with
        | nil =>
            obtain ⟨rfl, -⟩ := List.cons.inj hmore
            rw [List.append_nil] at inside
            exact ⟨[], before, (List.nil_append _).symm, inside⟩
        | cons x more =>
            obtain ⟨rfl, -⟩ := List.cons.inj hmore
            exact ihinside rfl

end Transcript

-- ── Runs with a state ────────────────────────────────────────────────────────────

section Runs

variable {σ τ : Type}

/-- What a resolver with a state is asked in a scan that begins with state `s`, and
    what it answers. -/
def asked (d : Delimiters) (resolve : Placeholder → StateM σ (Option Text)) (s : σ) (t : Text) :
    List Answered :=
  ((d.scanRecorded resolve t).run s).1.2

theorem run_scanRecorded (resolve : Placeholder → StateM σ (Option Text)) (s : σ) (t : Text) :
    (d.scanRecorded resolve t).run s
      = ((((d.scan resolve t).run s).1, d.asked resolve s t), ((d.scan resolve t).run s).2) := by
  rw [← fst_scanRecorded]
  rfl

/-- A run goes into the first placeholder, then asks for it, and then goes on behind
    it, each time with the state that is left. -/
theorem asked_of_some (found : d.firstToken? t = some token)
    (resolve : Placeholder → StateM σ (Option Text)) (s : σ) :
    let inner := (d.scan resolve token.raw).run s
    let value := (resolve ⟨token.raw, inner.1⟩).run inner.2
    d.asked resolve s t = d.asked resolve s token.raw
          ++ ⟨⟨token.raw, inner.1⟩, value.1⟩ :: d.asked resolve value.2 token.rest ∧
      ((d.scan resolve t).run s).2 = ((d.scan resolve token.rest).run value.2).2 := by
  have hrun : (d.scanRecorded resolve t).run s = _ :=
    congrArg (StateT.run · s) (scanRecorded_of_some found)
  simp only [StateT.run_bind, run_scanRecorded, StateT.run_pure] at hrun
  have hasked := congrArg (fun r => r.1.2) hrun
  have hstate := congrArg Prod.snd hrun
  exact ⟨hasked, hstate⟩

/-- A run asks for the noted placeholders one after the other, gets the noted
    answers, and asks for nothing else. -/
theorem run_mapM_asked (resolve : Placeholder → StateM σ (Option Text)) (s : σ) (t : Text) :
    (((d.asked resolve s t).map Answered.placeholder).mapM resolve).run s
      = ((d.asked resolve s t).map Answered.answer, ((d.scan resolve t).run s).2) := by
  induction t using token_induction d generalizing s with
  | plain t found =>
      rw [asked, scanRecorded_of_none found, scan_of_none found]
      rfl
  | token t token found ihraw ihrest =>
      obtain ⟨hasked, hstate⟩ := asked_of_some found resolve s
      generalize hinner : (d.scan resolve token.raw).run s = inner at hasked hstate
      generalize hvalue : (resolve ⟨token.raw, inner.1⟩).run inner.2 = value at hasked hstate
      rw [hasked, hstate, List.map_append, List.map_cons, List.mapM_append, StateT.run_bind,
        ihraw, hinner]
      show (List.mapM resolve (_ :: _) >>= _ : StateM σ _).run inner.2 = _
      rw [List.mapM_cons, StateT.run_bind, StateT.run_bind, hvalue]
      show ((List.mapM resolve _ >>= _ : StateM σ _).run value.2 >>= _) = _
      rw [StateT.run_bind, ihrest, List.map_append, List.map_cons]
      rfl

/-- A run of a scan with these notes.  They are what the resolver is asked and
    answers, and nothing else happens to the state.  What it sees of a placeholder
    is the raw text with the answers noted right before in it, and the rebuilt
    text is the text with the answers in it. -/
structure Rebuilds (d : Delimiters) (resolve : Placeholder → StateM σ (Option Text)) (s : σ)
    (t : Text) (notes : List Answered) : Prop where
  answers : ((notes.map Answered.placeholder).mapM resolve).run s
    = (notes.map Answered.answer, ((d.scan resolve t).run s).2)
  texts : ∀ before a after, notes = before ++ a :: after →
    ∃ front inside, before = front ++ inside ∧ d.Substituted a.raw a.placeholder.text inside
  output : d.Substituted t ((d.scan resolve t).run s).1 notes

/-- **Answers are never scanned.**  Whatever two resolvers answer, they are asked
    for the same raw texts in the same order.  In either run an answer stands
    where its placeholder stood and nowhere else: in the text of the placeholder
    around it, or in the rebuilt text. -/
theorem scan_substitutes (d : Delimiters) (t : Text)
    (resolve : Placeholder → StateM σ (Option Text)) (s : σ)
    (other : Placeholder → StateM τ (Option Text)) (s' : τ) :
    (d.asked resolve s t).map Answered.raw = (d.asked other s' t).map Answered.raw ∧
      d.Rebuilds resolve s t (d.asked resolve s t) ∧
      d.Rebuilds other s' t (d.asked other s' t) := by
  have htranscript : ∀ {ρ : Type} (resolve : Placeholder → StateM ρ (Option Text)) (s : ρ),
      Transcript d (fun _ _ => True) t ((d.scan resolve t).run s).1 (d.asked resolve s t) := by
    intro ρ resolve s
    have h : Ensures (d.scanRecorded resolve t) fun r => Transcript d (fun _ _ => True) t r.1 r.2 :=
      ensures_transcript (fun _ => .of_forall fun _ => trivial) t
    have hrun := ensures_stateM.mp h s
    rw [run_scanRecorded] at hrun
    exact hrun
  have hrebuilds : ∀ {ρ : Type} (resolve : Placeholder → StateM ρ (Option Text)) (s : ρ),
      d.Rebuilds resolve s t (d.asked resolve s t) := by
    intro ρ resolve s
    refine ⟨run_mapM_asked resolve s t, fun before a after hsplit => ?_,
      (htranscript resolve s).substituted⟩
    obtain ⟨front, inside, hbefore, htext⟩ := (htranscript resolve s).inside_of_split hsplit
    exact ⟨front, inside, hbefore, htext.substituted⟩
  refine ⟨?_, hrebuilds resolve s, hrebuilds other s'⟩
  rw [(htranscript resolve s).map_raw, (htranscript other s').map_raw]

end Runs

-- ── Putting the delimiters back ──────────────────────────────────────────────────

section Wrapping

variable {m : Type → Type} [Monad m] [LawfulMonad m]

/-- Where the first placeholder is answered by itself, the text is restored if what
    it holds and what follows it are. -/
private theorem scan_wrap_of_some {answer : Placeholder → Text} {effect : Placeholder → m Unit}
    (found : d.firstToken? t = some token) (hanswer : answer ⟨token.raw, token.raw⟩ = token.raw)
    (hraw : d.scan (fun p => do effect p; pure (some (d.wrap (answer p)))) token.raw
      = (do forM (d.raws token.raw) fun raw => effect ⟨raw, raw⟩
            pure token.raw))
    (hrest : d.scan (fun p => do effect p; pure (some (d.wrap (answer p)))) token.rest
      = (do forM (d.raws token.rest) fun raw => effect ⟨raw, raw⟩
            pure token.rest)) :
    d.scan (fun p => do effect p; pure (some (d.wrap (answer p)))) t
      = (do forM (d.raws t) fun raw => effect ⟨raw, raw⟩
            pure t) := by
  rw [scan_of_some found, raws_of_some found, hraw, hrest, List.forM_append, List.forM_cons]
  simp only [bind_assoc, pure_bind, hanswer, Option.getD_some, firstToken?_append found]

/-- **The delimiters put back.**  A resolver that answers each placeholder with its
    text between the delimiters, whatever else it does, restores every text, and
    so does one that takes the raw text.  Each is asked for the raw texts in the
    order of visiting, and sees of each the raw text itself. -/
theorem scan_wrap (d : Delimiters) (effect : Placeholder → m Unit) (t : Text) :
    d.scan (fun p => do effect p; pure (some (d.wrap p.text))) t
        = (do forM (d.raws t) fun raw => effect ⟨raw, raw⟩
              pure t) ∧
      d.scan (fun p => do effect p; pure (some (d.wrap p.raw))) t
        = (do forM (d.raws t) fun raw => effect ⟨raw, raw⟩
              pure t) := by
  induction t using token_induction d with
  | plain t found =>
      rw [scan_of_none found, scan_of_none found, raws_of_none found]
      simp
  | token t token found ihraw ihrest =>
      exact ⟨scan_wrap_of_some found rfl ihraw.1 ihrest.1,
        scan_wrap_of_some found rfl ihraw.2 ihrest.2⟩

/-- Delimiters of which one is the start of the other, with a placeholder in a
    placeholder and an opening that is never closed. -/
theorem scan_wrap_overlapping :
    let d : Delimiters := ⟨['<'], ['<', '<'], by decide, by decide⟩
    let note : Placeholder → StateM (List Placeholder) Unit := fun p => modify (· ++ [p])
    LawfulMonad (StateM (List Placeholder)) ∧
      (d.scan (fun p => do note p; pure (some (d.wrap p.text))) "<a<b<<c<<<".toList).run []
        = ("<a<b<<c<<<".toList, [⟨['b'], ['b']⟩, ⟨"a<b<<c".toList, "a<b<<c".toList⟩]) := by
  intro d note
  have houter : d.firstToken? "<a<b<<c<<<".toList = some ⟨[], "a<b<<c".toList, ['<']⟩ := by decide
  have hinner : d.firstToken? "a<b<<c".toList = some ⟨['a'], ['b'], ['c']⟩ := by decide
  have hraws : d.raws "<a<b<<c<<<".toList = [['b'], "a<b<<c".toList] := by
    rw [raws_of_some houter, raws_of_some hinner, raws_of_none (by decide),
      raws_of_none (by decide), raws_of_none (by decide)]
    rfl
  refine ⟨inferInstance, ?_⟩
  rw [(scan_wrap d note _).1, hraws]
  rfl

end Wrapping

end FaultPages.Delimiters
