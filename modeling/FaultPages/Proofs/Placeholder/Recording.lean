import FaultPages.Proofs.Ensures
import FaultPages.Proofs.Placeholder.Tokens

/-! # Recording — what a scan asks its resolver for

    `recording` makes a resolver note each placeholder with its answer.  The
    notes change nothing else (`fst_scanRecorded`), so they show what every run
    of `scan` does.  A `Transcript` is what such a run can leave behind, without
    its effects; every scan leaves one (`ensures_transcript`).  From that follow

    * the placeholders that are asked for, in an order that no answer changes
      (`Transcript.map_raw`);
    * the rebuilt text, as literal pieces with the answers of the top level in
      between (`Transcript.output_eq`);
    * what is known of the answers themselves (`Transcript.answers_of_mem`). -/

namespace FaultPages

/-- A placeholder with what the resolver answered. -/
structure Answered where
  placeholder : Placeholder
  answer : Option Text
  deriving DecidableEq, Repr

namespace Answered

/-- The raw text of the placeholder. -/
def raw (a : Answered) : Text := a.placeholder.raw

/-- What is written for the placeholder. -/
def written (a : Answered) : Text := a.answer.getD []

end Answered

namespace Delimiters

section Recording

variable {m : Type → Type} [Monad m]

/-- A resolver that also notes what it was asked and what it answered. -/
def recording (resolve : Placeholder → m (Option Text)) (p : Placeholder) :
    StateT (List Answered) m (Option Text) := do
  let answer ← resolve p
  modify (· ++ [⟨p, answer⟩])
  pure answer

/-- A scan with the notes of its resolver. -/
def scanRecorded (d : Delimiters) (resolve : Placeholder → m (Option Text)) (t : Text) :
    m (Text × List Answered) :=
  (d.scan (recording resolve) t).run []

variable {d : Delimiters} {resolve : Placeholder → m (Option Text)}
  {t : Text} {token : Token}

theorem scanRecorded_of_none (h : d.firstToken? t = none) :
    d.scanRecorded resolve t = pure (t, []) := by
  rw [scanRecorded, scan_of_none h]
  rfl

variable [LawfulMonad m]

theorem run_recording (p : Placeholder) (notes : List Answered) :
    (recording resolve p).run notes
      = (fun answer => (answer, notes ++ [⟨p, answer⟩])) <$> resolve p := by
  simp [recording]

private theorem run_scan_recording_of_some (h : d.firstToken? t = some token)
    (notes : List Answered) :
    (d.scan (recording resolve) t).run notes = (do
      let inner ← (d.scan (recording resolve) token.raw).run notes
      let value ← resolve ⟨token.raw, inner.1⟩
      let rest ← (d.scan (recording resolve) token.rest).run
        (inner.2 ++ [⟨⟨token.raw, inner.1⟩, value⟩])
      pure (token.before ++ value.getD [] ++ rest.1, rest.2)) := by
  rw [scan_of_some h]
  simp [run_recording]

/-- Notes are added after those that are there. -/
theorem run_scan_recording (notes : List Answered) :
    (d.scan (recording resolve) t).run notes
      = (fun r => (r.1, notes ++ r.2)) <$> d.scanRecorded resolve t := by
  induction t using token_induction d generalizing notes with
  | plain t h => simp [scanRecorded, scan_of_none h]
  | token t token h ihraw ihrest =>
      rw [show d.scanRecorded resolve t = (d.scan (recording resolve) t).run [] from rfl,
        run_scan_recording_of_some h notes, run_scan_recording_of_some h [],
        ihraw notes, ihraw []]
      simp only [ihrest]
      simp

/-- The notes of a text are those of what its first placeholder holds, then that
    placeholder, then those of what follows it. -/
theorem scanRecorded_of_some (h : d.firstToken? t = some token) :
    d.scanRecorded resolve t = (do
      let inner ← d.scanRecorded resolve token.raw
      let value ← resolve ⟨token.raw, inner.1⟩
      let rest ← d.scanRecorded resolve token.rest
      pure (token.before ++ value.getD [] ++ rest.1,
        inner.2 ++ ⟨⟨token.raw, inner.1⟩, value⟩ :: rest.2)) := by
  rw [show d.scanRecorded resolve t = (d.scan (recording resolve) t).run [] from rfl,
    run_scan_recording_of_some h []]
  simp only [run_scan_recording]
  simp

/-- Recording changes nothing of a scan. -/
theorem fst_scanRecorded :
    Prod.fst <$> d.scanRecorded resolve t = d.scan resolve t := by
  induction t using token_induction d with
  | plain t h => simp [scanRecorded_of_none h, scan_of_none h]
  | token t token h ihraw ihrest =>
      rw [scanRecorded_of_some h, scan_of_some h, ← ihraw, ← ihrest]
      simp

-- ── Transcripts ──────────────────────────────────────────────────────────────────

/-- What a scan of a text can leave behind: the rebuilt text and the notes, if
    `answers` says what a resolver may answer. -/
inductive Transcript (d : Delimiters) (answers : Placeholder → Option Text → Prop) :
    Text → Text → List Answered → Prop where
  | plain {t : Text} (found : d.firstToken? t = none) : Transcript d answers t t []
  | token {t : Text} {token : Token} {inner rest : Text} {value : Option Text}
      {before after : List Answered} (found : d.firstToken? t = some token)
      (inside : Transcript d answers token.raw inner before)
      (own : answers ⟨token.raw, inner⟩ value)
      (behind : Transcript d answers token.rest rest after) :
      Transcript d answers t (token.before ++ value.getD [] ++ rest)
        (before ++ ⟨⟨token.raw, inner⟩, value⟩ :: after)

/-- **Every scan leaves a transcript.** -/
theorem ensures_transcript {answers : Placeholder → Option Text → Prop}
    (h : ∀ p, Ensures (resolve p) (answers p)) (t : Text) :
    Ensures (d.scanRecorded resolve t) fun r => Transcript d answers t r.1 r.2 := by
  induction t using token_induction d with
  | plain t found =>
      rw [scanRecorded_of_none found]
      exact .of_pure (.plain found)
  | token t token found ihraw ihrest =>
      rw [scanRecorded_of_some found]
      refine ihraw.bind fun inner hinner => ?_
      refine (h _).bind fun value hvalue => ?_
      refine ihrest.bind fun rest hrest => ?_
      exact .of_pure (.token found hinner hvalue hrest)

end Recording

namespace Transcript

variable {d : Delimiters} {answers : Placeholder → Option Text → Prop} {t output : Text}
  {notes : List Answered}

/-- The placeholders that are asked for have the raw texts of `raws`. -/
theorem map_raw (h : Transcript d answers t output notes) :
    notes.map Answered.raw = d.raws t := by
  induction h with
  | plain found => exact (raws_of_none found).symm
  | token found _ _ _ ihinside ihbehind =>
      rw [raws_of_some found, ← ihinside, ← ihbehind, List.map_append, List.map_cons]
      rfl

/-- The answers of the top level stand between the literal pieces. -/
theorem output_eq (h : Transcript d answers t output notes) :
    output = interleave (d.literals t) ((d.topLevel t notes).map Answered.written) := by
  induction h with
  | plain found => simp [literals_of_none found, topLevel_of_none found, interleave]
  | token found inside _ _ _ ihbehind =>
      rw [literals_of_some found,
        topLevel_of_some found (by rw [← inside.map_raw, List.length_map]), List.map_cons,
        interleave, ← ihbehind]
      rfl

/-- Every note is of an answer that the resolver may give. -/
theorem answers_of_mem (h : Transcript d answers t output notes) {a : Answered}
    (ha : a ∈ notes) : answers a.placeholder a.answer := by
  induction h with
  | plain found => exact absurd ha List.not_mem_nil
  | token found _ own _ ihinside ihbehind =>
      rcases List.mem_append.mp ha with hinside | hrest
      · exact ihinside hinside
      · rcases List.mem_cons.mp hrest with rfl | hbehind
        · exact own
        · exact ihbehind hbehind

end Transcript

/-- **The placeholders that a scan asks for** are those of its text, in the order
    of `raws`, whatever the answers are. -/
theorem ensures_map_raw {m : Type → Type} [Monad m] [LawfulMonad m] (d : Delimiters)
    (resolve : Placeholder → m (Option Text)) (t : Text) :
    Ensures (d.scanRecorded resolve t) fun r => r.2.map Answered.raw = d.raws t :=
  (ensures_transcript (fun _ => .of_forall fun _ => trivial) t).mono
    fun _ h => h.map_raw

end Delimiters

end FaultPages
