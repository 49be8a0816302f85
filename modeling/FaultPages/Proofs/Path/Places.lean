import FaultPages.Proofs.Path.Reading
import FaultPages.Proofs.Path.Segments

/-! # Places — where in an expression its nested placeholders stand

    A reader only ever skips characters, so each place that it comes to lies in the
    expression (`Place.In`).  A nested placeholder is cut off at such a place, so it
    stands there with its delimiters around a balanced text (`Part.StandsIn`).  That
    one is not closed is a fault only of an expression that is not balanced itself.
    Both pass from step to step (`StepIn`), and so to all parts (`ofText_in`). -/

namespace FaultPages

/-- A nested placeholder stands in a text, at its offset.  Other parts are not placed. -/
def Part.StandsIn (t : Text) : Part → Prop
  | .nested offset inner => ∃ front behind,
      t = front ++ (Delimiters.standard.wrap inner ++ behind) ∧ Text.byteLength front = offset ∧
        Balanced '\x7b' '\x7d' 0 inner
  | _ => True

namespace Parts

open Delimiters

variable {t : Text} {p : Place}

/-- A place in a text: what stands before it makes up its offset. -/
def Place.In (t : Text) (p : Place) : Prop :=
  ∃ front, t = front ++ p.rest ∧ Text.byteLength front = p.offset

theorem Place.In.skip (h : p.In t) (n : Nat) : (p.skip n).In t := by
  obtain ⟨front, ht, hoffset⟩ := h
  refine ⟨front ++ p.rest.take n, ?_, ?_⟩
  · rw [ht, List.append_assoc, Place.skip, List.take_append_drop]
  · rw [Text.byteLength_append, hoffset]
    rfl

theorem Place.In.skipBlanks (h : p.In t) : p.skipBlanks.In t := h.skip _

/-- A fault of an expression: that a placeholder is not closed is none of a balanced one. -/
def FaultIn (t : Text) (fault : PathFault) : Prop :=
  ∀ offset, fault = .unclosedNested offset → ¬ Balanced '\x7b' '\x7d' 0 t

/-- A step in a text: its part stands there, and it leads to another place of the text. -/
def StepIn (t : Text) : Step → Prop
  | .ok (part, after) => part.StandsIn t ∧ after.In t
  | .error fault => FaultIn t fault

/-- Parts of a text. -/
structure In (t : Text) (parts : Parts) : Prop where
  stands : ∀ part ∈ parts.parts, part.StandsIn t
  fault : ∀ fault, parts.fault = some fault → FaultIn t fault

-- ── Steps ────────────────────────────────────────────────────────────────────────

/-- A nested placeholder stands where it is taken.  In a balanced text it is taken, since
    it is closed. -/
theorem nested_in (hp : p.In t) (hopen : standard.opening.isPrefixOf p.rest = true) :
    StepIn t (nested standard p) := by
  obtain ⟨body, hbody⟩ := List.isPrefixOf_iff_prefix.mp hopen
  obtain ⟨front, ht, hoffset⟩ := id hp
  rw [nested, ← hbody, List.drop_left]
  rw [← hbody] at ht
  cases hclose : closingIndex standard.nestingOpener standard.closing 0 0 body with
  | none =>
      intro offset _ hbalanced
      have hopener : t = (front ++ ['$']) ++ '\x7b' :: body := by
        rw [ht]
        simp [standard]
      rw [hopener] at hbalanced
      have hsome : (closingIndex standard.nestingOpener standard.closing 0 0 body).isSome :=
        hbalanced.isSome_closingIndex (by decide)
      rw [hclose] at hsome
      cases hsome
  | some n =>
      obtain ⟨inner, rest, rfl, rfl, hinner⟩ := (closingIndex_eq_some (by decide)).mp hclose
      refine ⟨⟨front, rest, ?_, hoffset, ?_⟩, hp.skip _⟩
      · rw [ht, List.take_left]
        simp [wrap, standard]
      · rwa [List.take_left]

theorem member_in (hp : p.In t) : StepIn t (member standard p) := by
  rw [member]
  split
  · rename_i hopen
    exact nested_in hp hopen
  · dsimp only
    split
    · split
      · exact fun _ h => by cases h
      · split
        · exact fun _ h => by cases h
        · exact fun _ h => by cases h
    · split
      · exact fun _ h => by cases h
      · split
        · exact fun _ h => by cases h
        · exact ⟨trivial, hp.skip _⟩

theorem bracketed_in (hp : p.In t) (bracket : Nat) : StepIn t (bracketed standard bracket p) := by
  rw [bracketed]
  split
  · exact fun _ h => by cases h
  · dsimp only
    split
    · split
      · exact ⟨trivial, hp.skip _⟩
      · exact fun _ h => by cases h
    · split
      · split
        · exact ⟨trivial, hp.skip _⟩
        · exact fun _ h => by cases h
      · split
        · rename_i hopen
          exact nested_in hp hopen
        · split
          · exact fun _ h => by cases h
          · exact fun _ h => by cases h

theorem closeBracket_in {bracket : Nat} (hp : p.In t) :
    (∀ after, closeBracket bracket p = .ok after → after.In t) ∧
      ∀ fault, closeBracket bracket p = .error fault → FaultIn t fault := by
  rw [closeBracket]
  split
  · refine ⟨fun after h => ?_, fun fault h => ?_⟩
    · cases h
    · cases h
      exact fun _ h => by cases h
  · split
    · refine ⟨fun after h => ?_, fun fault h => ?_⟩
      · cases h
        exact hp.skipBlanks.skip 1
      · cases h
    · refine ⟨fun after h => ?_, fun fault h => ?_⟩
      · cases h
      · cases h
        exact fun _ h => by cases h

-- ── Reading to the end ───────────────────────────────────────────────────────────

theorem In.cons {part : Part} {parts : Parts} (hpart : part.StandsIn t) (h : parts.In t) :
    (parts.cons part).In t where
  stands := List.forall_mem_cons.mpr ⟨hpart, h.stands⟩
  fault := h.fault

theorem in_failed {fault : PathFault} (h : FaultIn t fault) : (failed fault).In t where
  stands := fun _ hpart => absurd hpart List.not_mem_nil
  fault := by
    rintro _ ⟨⟩
    exact h

/-- All that is read from a place of a text are parts of it. -/
theorem read_in {expecting : Expecting} (hp : p.In t) : (read standard expecting p).In t := by
  fun_induction read standard expecting p with
  | case1 expecting p hexpecting fault hread =>
      have hstep := member_in hp
      rw [hread] at hstep
      exact in_failed hstep
  | case2 expecting p hexpecting part after hread ih =>
      have hstep := member_in hp
      rw [hread] at hstep
      exact (ih hstep.2).cons hstep.1
  | case3 => exact ⟨fun _ hpart => absurd hpart List.not_mem_nil, fun _ h => by cases h⟩
  | case4 expecting p hexpecting body hbody fault hread =>
      have hstep := bracketed_in (hp.skip 1).skipBlanks p.offset
      rw [hread] at hstep
      exact in_failed hstep
  | case5 expecting p hexpecting body hbody part inside hread fault hclose =>
      have hstep := bracketed_in (hp.skip 1).skipBlanks p.offset
      rw [hread] at hstep
      exact (in_failed ((closeBracket_in hstep.2).2 fault hclose)).cons hstep.1
  | case6 expecting p hexpecting body hbody part inside hread after hclose ih =>
      have hstep := bracketed_in (hp.skip 1).skipBlanks p.offset
      rw [hread] at hstep
      exact (ih ((closeBracket_in hstep.2).1 after hclose)).cons hstep.1
  | case7 => exact in_failed fun _ h => by cases h
  | case8 expecting p hexpecting tail hne hbody ih => exact ih (hp.skip 1)
  | case9 =>
      refine in_failed fun _ h => ?_
      split at h <;> cases h

/-- The parts of a text stand in it. -/
theorem ofText_in (t : Text) : (ofText standard t).In t := by
  rw [ofText]
  split
  · exact ⟨fun _ hpart => absurd hpart List.not_mem_nil, fun _ h => by cases h⟩
  · exact read_in ⟨[], rfl, rfl⟩

end Parts

end FaultPages
