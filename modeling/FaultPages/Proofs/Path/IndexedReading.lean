import FaultPages.Proofs.Path.Indices

/-! # Indexed reading — all of a path is read within its text

    `parseFrom` reads an expression by byte indices alone: each step leads from an index
    to the next one, and a nested placeholder is read as an expression of its own as soon
    as it is taken.  Each step moves the index on within the text, so there is an end to
    them, and a nested text is shorter.

    The induction is on the reading by places (`readFrom_eq`): where an index is the
    offset of a place in the text, both read the same from there on, a fault included.  So
    no index leaves the text or splits a character (`parseFrom_eq`), and with the search
    and the scan none does anywhere (`indices_stay_within`). -/

namespace FaultPages

open Text Parts

namespace Path

-- ── Reading by indices ───────────────────────────────────────────────────────────

/-- Go on with the result of a step, and with the fact that it is its result.  A fault of
    the step is one of the source. -/
def proceed {α β : Type} (source : Text) (x : Indexed PathFault α)
    (f : (a : α) → x.run = .ok (.ok a) → Indexed ExpressionFault β) :
    Indexed ExpressionFault β :=
  match outcome : x.run with
  | .error slip => throwThe Slip slip
  | .ok (.error fault) => throw ⟨source, fault⟩
  | .ok (.ok a) => f a outcome

/-- The segment of a part, with the path of a nested placeholder from `inner`. -/
def segmentFrom (source t : Text)
    (inner : (raw : Text) → raw.length < t.length → Indexed ExpressionFault Path) :
    (part : Part) → part.size ≤ t.length → Indexed ExpressionFault Segment
  | .property name, _ => pure (.property name)
  | .index position, _ => pure (.index position)
  | .nested offset raw, h => do
    let path ← inner raw h
    if path.isEmpty then throw ⟨source, .emptyNested offset⟩ else pure (.nested path)

/-- Read segments up to the end of the text or to the first fault.  A nested placeholder is
    read as soon as it is taken, before the bracket around it is closed. -/
def readFrom (d : Delimiters) (source t : Text)
    (inner : (raw : Text) → raw.length < t.length → Indexed ExpressionFault Path)
    (expecting : Expecting) (index : Nat) : Indexed ExpressionFault Path :=
  proceed source (restFrom t index) fun rest _rest =>
    if expecting = .member ∨ (expecting = .head ∧ rest.head? ≠ some '[') then
      proceed source (memberFrom d t index) fun (part, next) _member => do
        let segment ← segmentFrom source t inner part (memberFrom_moves _rest _member).1
        let path ← readFrom d source t inner .more next
        pure (segment :: path)
    else
      match rest with
      | [] => pure []
      | '[' :: _ =>
        proceed source (bracketedFrom d t index) fun (part, inside) _inside => do
          let segment ← segmentFrom source t inner part (bracketedFrom_size _rest _inside)
          proceed source (closeFrom t index inside) fun next _close => do
            let path ← readFrom d source t inner .more next
            pure (segment :: path)
      | ['.'] => throw ⟨source, .emptySegment (index + 1)⟩
      | '.' :: _ => readFrom d source t inner .member (index + 1)
      | c :: _ =>
        throw ⟨source, if d.opening.isPrefixOf rest then .partNested index
          else .unexpected c index⟩
termination_by byteLength t - index
decreasing_by
  · exact (memberFrom_moves _rest _member).2
  · exact closeFrom_moves _rest _inside _close
  · exact dot_moves _rest

/-- Read an expression by indices. -/
def parseFrom (d : Delimiters) (source : Text) : Indexed ExpressionFault Path :=
  if trim source = [] then pure []
  else readFrom d source (trim source) (fun raw _inside => parseFrom d raw) .head 0
termination_by source.length
decreasing_by exact Nat.lt_of_lt_of_le _inside (trim_length_le source)

variable {d : Delimiters} {source t : Text} {p after : Place} {part : Part}
  {expecting : Expecting}

-- ── What parts are read as ───────────────────────────────────────────────────────

/-- The path that parts are read as. -/
def ofParts (d : Delimiters) (source : Text) (parts : Parts) : Except ExpressionFault Path :=
  parts.parts.mapM (segment? d source) >>= unlessFault source parts.fault

theorem ofParts_failed (fault : PathFault) :
    ofParts d source (failed fault) = .error ⟨source, fault⟩ := rfl

theorem ofParts_cons (part : Part) (parts : Parts) :
    ofParts d source (parts.cons part)
      = segment? d source part >>= fun segment => (ofParts d source parts).map (segment :: ·) := by
  rw [ofParts, ofParts, cons, List.mapM_cons]
  simp only [bind_assoc, pure_bind]
  refine bind_congr fun segment => ?_
  cases parts.parts.mapM (segment? d source) with
  | error fault => rfl
  | ok path =>
      cases parts.fault with
      | none => rfl
      | some cause => rfl

-- ── Reading by indices is reading by places ──────────────────────────────────────

section Proceed

variable {α β : Type} {x : Indexed PathFault α} {f : (a : α) → x.run = .ok (.ok a) →
  Indexed ExpressionFault β}

theorem proceed_error {fault : PathFault} (h : x.run = .ok (.error fault)) :
    (proceed source x f).run = .ok (.error ⟨source, fault⟩) := by
  rw [proceed]
  split
  · rename_i slip hslip
    cases hslip.symm.trans h
  · rename_i fault' hfault
    cases hfault.symm.trans h
    rfl
  · rename_i a hok
    cases hok.symm.trans h

theorem proceed_ok {a : α} (h : x.run = .ok (.ok a)) : proceed source x f = f a h := by
  rw [proceed]
  split
  · rename_i slip hslip
    cases hslip.symm.trans h
  · rename_i fault hfault
    cases hfault.symm.trans h
  · rename_i a' hok
    cases hok.symm.trans h
    rfl

end Proceed

/-- Where no index is wrong, a computation goes on with its results. -/
private theorem run_bind_of_run {ε α β : Type} {x : Indexed ε α} {y : Except ε α}
    {f : α → Indexed ε β} {g : α → Except ε β} (hx : x.run = .ok y)
    (hf : ∀ a, (f a).run = .ok (g a)) : (x >>= f).run = .ok (y >>= g) := by
  rw [ExceptT.run_bind, hx]
  cases y with
  | error fault => rfl
  | ok a => exact hf a

/-- Where the rest has a shape, it is read as one of that shape. -/
private theorem run_restFrom {rest : Text} (hp : p.In t) (hrest : p.rest = rest) :
    (restFrom t p.offset).run = .ok (.ok rest) := by
  rw [restFrom_eq hp, hrest]
  rfl

section Reading

variable {inner : (raw : Text) → raw.length < t.length → Indexed ExpressionFault Path}
  (hinner : ∀ raw h, (inner raw h).run = .ok (parse d raw))

include hinner

theorem segmentFrom_eq (h : part.size ≤ t.length) :
    (segmentFrom source t inner part h).run = .ok (segment? d source part) := by
  cases part with
  | property name => rfl
  | index position => rfl
  | nested offset raw =>
      refine run_bind_of_run (hinner raw h) fun path => ?_
      split
      · rfl
      · rfl

/-- **At the offset of a place, reading by indices is reading from that place.** -/
theorem readFrom_eq (hp : p.In t) :
    (readFrom d source t inner expecting p.offset).run
      = .ok (ofParts d source (read d expecting p)) := by
  fun_induction read d expecting p with
  | case1 expecting p hexpecting fault hread =>
      have hmember : (memberFrom d t p.offset).run = .ok (.error fault) := by
        rw [memberFrom_eq hp, hread]
        rfl
      rw [readFrom, proceed_ok (run_restFrom hp rfl), if_pos hexpecting, proceed_error hmember,
        ofParts_failed]
  | case2 expecting p hexpecting part after hread ih =>
      have hmember : (memberFrom d t p.offset).run = .ok (.ok (part, after.offset)) := by
        rw [memberFrom_eq hp, hread]
        rfl
      rw [readFrom, proceed_ok (run_restFrom hp rfl), if_pos hexpecting, proceed_ok hmember,
        ofParts_cons]
      refine run_bind_of_run (segmentFrom_eq hinner _) fun segment => ?_
      exact run_bind_of_run (ih (member_after_in hp hread)) fun path => rfl
  | case3 expecting p hexpecting hrest =>
      rw [hrest] at hexpecting
      rw [readFrom, proceed_ok (run_restFrom hp hrest), if_neg hexpecting]
      rfl
  | case4 expecting p hexpecting body hrest fault hread =>
      have hbracketed : (bracketedFrom d t p.offset).run = .ok (.error fault) := by
        rw [bracketedFrom_eq hp hrest, hread]
        rfl
      rw [hrest] at hexpecting
      rw [readFrom, proceed_ok (run_restFrom hp hrest), if_neg hexpecting]
      show (proceed source (bracketedFrom d t p.offset) _).run = _
      rw [proceed_error hbracketed, ofParts_failed]
  | case5 expecting p hexpecting body hrest part inside hread fault hclose =>
      have hbracketed : (bracketedFrom d t p.offset).run = .ok (.ok (part, inside.offset)) := by
        rw [bracketedFrom_eq hp hrest, hread]
        rfl
      have hin := bracketed_after_in (hp.skip 1).skipBlanks hread
      have hcloses : (closeFrom t p.offset inside.offset).run = .ok (.error fault) := by
        rw [closeFrom_eq hin, hclose]
        rfl
      rw [hrest] at hexpecting
      rw [readFrom, proceed_ok (run_restFrom hp hrest), if_neg hexpecting]
      show (proceed source (bracketedFrom d t p.offset) _).run = _
      rw [proceed_ok hbracketed]
      -- the part is read before the bracket is found unclosed, so its fault comes first
      show _ = Except.ok (ofParts d source ((failed fault).cons part))
      rw [ofParts_cons]
      refine run_bind_of_run (segmentFrom_eq hinner _) fun segment => ?_
      rw [proceed_error hcloses]
      rfl
  | case6 expecting p hexpecting body hrest part inside hread after hclose ih =>
      have hbracketed : (bracketedFrom d t p.offset).run = .ok (.ok (part, inside.offset)) := by
        rw [bracketedFrom_eq hp hrest, hread]
        rfl
      have hin := bracketed_after_in (hp.skip 1).skipBlanks hread
      have hcloses : (closeFrom t p.offset inside.offset).run = .ok (.ok after.offset) := by
        rw [closeFrom_eq hin, hclose]
        rfl
      rw [hrest] at hexpecting
      rw [readFrom, proceed_ok (run_restFrom hp hrest), if_neg hexpecting]
      show (proceed source (bracketedFrom d t p.offset) _).run = _
      rw [proceed_ok hbracketed, ofParts_cons]
      refine run_bind_of_run (segmentFrom_eq hinner _) fun segment => ?_
      rw [proceed_ok hcloses]
      exact run_bind_of_run (ih ((closeBracket_in hin).1 after hclose)) fun path => rfl
  | case7 expecting p hexpecting hrest =>
      rw [hrest] at hexpecting
      rw [readFrom, proceed_ok (run_restFrom hp hrest), if_neg hexpecting]
      rfl
  | case8 expecting p hexpecting tail hne hrest ih =>
      have hnext : (p.skip 1).offset = p.offset + 1 := by
        obtain ⟨offset, rest⟩ := p
        subst hrest
        rw [Place.skip_cons rfl]
      rw [hrest] at hexpecting
      rw [readFrom, proceed_ok (run_restFrom hp hrest), if_neg hexpecting, ← hnext]
      -- something stands behind the dot, and a member is read there
      obtain ⟨c, tail, rfl⟩ := List.exists_cons_of_ne_nil hne
      exact ih (hp.skip 1)
  | case9 expecting p hexpecting c tail hbracket hend hdot hrest =>
      rw [hrest] at hexpecting
      rw [readFrom, proceed_ok (run_restFrom hp hrest), if_neg hexpecting]
      split
      · rename_i h _
        cases h
      · rename_i h _
        exact (hbracket (List.cons.inj h).1).elim
      · rename_i h _
        exact (hdot (List.cons.inj h).1).elim
      · rename_i h _
        exact (hdot (List.cons.inj h).1).elim
      · rename_i h _
        cases h
        rw [hrest]
        rfl

end Reading

theorem parseFrom_eq (d : Delimiters) (source : Text) :
    (parseFrom d source).run = .ok (parse d source) := by
  rw [parseFrom, FaultPages.Path.parse_eq, Parts.ofText]
  split
  · rfl
  · exact readFrom_eq (p := ⟨0, trim source⟩) (fun raw h => parseFrom_eq d raw) ⟨[], rfl, rfl⟩
termination_by source.length
decreasing_by exact Nat.lt_of_lt_of_le h (trim_length_le source)

end Path

/-- **Indices neither leave a text nor split a character.**  For all delimiters, the search
    for an end by indices does not go wrong from any start, and an end that it finds has the
    closing delimiter between two boundaries, behind the opening if there is room for one
    behind the start; the scan by indices does not go wrong for any
    resolver, whatever its effects; nor does the reading of any expression. -/
theorem indices_stay_within (d : Delimiters) :
    (∀ t start, d.endFrom t start = .ok (d.findEnd t start) ∧
      ∀ stop, d.findEnd t start = some stop →
        (start + byteLength d.opening < indexBound → start + byteLength d.opening ≤ stop) ∧
          stop + byteLength d.closing ≤ byteLength t ∧ stop ∈ offsets d.closing t ∧
          IsBoundary t stop ∧ IsBoundary t (stop + byteLength d.closing)) ∧
      (∀ (m : Type → Type) [Monad m] [LawfulMonad m]
        (resolve : Placeholder → m (Option Text)) (t : Text),
        (d.scanFrom resolve t 0).run = Except.ok <$> d.scan resolve t) ∧
      ∀ source, (Path.parseFrom d source).run = .ok (Path.parse d source) := by
  refine ⟨fun t start => ⟨Delimiters.endFrom_eq, fun stop h => Delimiters.findEnd_spec h⟩, ?_,
    Path.parseFrom_eq d⟩
  intro m _ _ resolve t
  exact Delimiters.run_scanFrom [] t

/-- Delimiters of several characters of two bytes each, and a start within a character. -/
theorem indices_stay_within_split :
    (⟨"«é".toList, "é»".toList, by decide, by decide⟩ : Delimiters).findEnd
        "ß«éxé»ü".toList 1 = some 7 ∧
      IsBoundary "ß«éxé»ü".toList 7 ∧ IsBoundary "ß«éxé»ü".toList (7 + 4) := by
  have hend : (⟨"«é".toList, "é»".toList, by decide, by decide⟩ : Delimiters).findEnd
      "ß«éxé»ü".toList 1 = some 7 := by decide
  obtain ⟨-, -, -, hstop, hbehind⟩ := ((indices_stay_within _).1 _ 1).2 7 hend
  exact ⟨hend, hstop, hbehind⟩

end FaultPages
