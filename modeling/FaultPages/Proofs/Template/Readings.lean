import FaultPages.Proofs.Placeholder.Recording
import FaultPages.Proofs.Template.Registering

/-! # Readings — which raw texts a registration reads

    A language whose calls are logged shows which raw texts are read, and in which
    order.  Since registering is a loop over the distinct raw texts of a template
    (`register_eq_mapM`), these are read one after the other, and the loop ends
    with the first one that is refused (`untilRefused`).  What is registered does not
    depend on the log (`fst_run_register_logged`). -/

namespace FaultPages

namespace Language

/-- A call of a language, with what it was given. -/
inductive Call (ε : Type) where
  | parse (raw : Text)
  | evaluate (expression : ε) (context : Context)

variable {ε φ : Type}

/-- A language without effects, with a log of its calls. -/
def logged (L : Language Id ε φ) : Language (StateM (List (Call ε))) ε φ where
  parse d raw := fun log => (Id.run (L.parse d raw), log ++ [.parse raw])
  evaluate expression context := fun log =>
    (Id.run (L.evaluate expression context), log ++ [.evaluate expression context])

end Language

namespace Registry

open FaultPages.Language

variable {ε φ : Type} {L : Language Id ε φ} {d : Delimiters}

/-- The texts that are read one after the other: all up to the first one that is refused,
    and that one too. -/
def untilRefused (L : Language Id ε φ) (d : Delimiters) : List Text → List Text
  | [] => []
  | raw :: rest =>
    raw :: match Id.run (L.parse d raw) with
      | .ok _ => untilRefused L d rest
      | .error _ => []

/-- One logged reading. -/
theorem run_readEntry_logged (raw : Text) (log : List (Call ε)) :
    (readEntry L.logged d raw).run.run log = (registered? L d raw, log ++ [.parse raw]) := rfl

/-- A logged loop over texts gives what the loop gives, and logs what it reads. -/
theorem run_mapM_logged (texts : List Text) (log : List (Call ε)) :
    (texts.mapM (readEntry L.logged d)).run.run log
      = (texts.mapM (registered? L d), log ++ (untilRefused L d texts).map .parse) := by
  induction texts generalizing log with
  | nil =>
      rw [untilRefused, List.map_nil, List.append_nil]
      rfl
  | cons raw texts ih =>
      rw [List.mapM_cons, List.mapM_cons, ExceptT.run_bind, StateT.run_bind,
        run_readEntry_logged, untilRefused, registered?]
      cases Id.run (L.parse d raw) with
      | error fault => rfl
      | ok expression =>
          show StateT.run (ExceptT.run (_ >>= _)) _ = _
          rw [ExceptT.run_bind, StateT.run_bind, ih, List.map_cons, ← List.append_cons]
          cases texts.mapM (registered? L d) with
          | error fault => rfl
          | ok entries => rfl

theorem run_register_logged (t : Text) (log : List (Call ε)) :
    (register L.logged d t).run log = (Id.run (register L d t),
      log ++ (untilRefused L d (d.raws t).eraseDups).map .parse) := by
  rw [register_eq_mapM, run_mapM_logged, run_register]

/-- A logged language registers what the language registers. -/
theorem fst_run_register_logged (t : Text) (log : List (Call ε)) :
    ((register L.logged d t).run log).1 = Id.run (register L d t) := by
  rw [run_register_logged]

/-- The placeholders that the scan of a registration visits. -/
def visited (L : Language Id ε φ) (d : Delimiters) (source : Text)
    (log : List (Call ε)) : List Answered :=
  (((d.scanRecorded (visit L.logged d) source).run (.ok [])).run log).1.1.2

theorem map_raw_visited (L : Language Id ε φ) (d : Delimiters) (source : Text)
    (log : List (Call ε)) : (visited L d source log).map Answered.raw = d.raws source := by
  have h := (Delimiters.ensures_map_raw d (visit L.logged d) source).run (.ok [])
  exact ensures_stateM.mp h log

/-- **Each distinct raw text is read once.**  A registration reads the raw texts that its
    scan visits, each where it comes first, and stops after the first one that is refused;
    it is refused if one of them is, and as that one is.  Otherwise its keys are the
    distinct raw texts, each with what is read there. -/
theorem register_reads (L : Language Id ε φ) (d : Delimiters) (source : Text)
    (log : List (Call ε)) :
    let raws := (visited L d source log).map Answered.raw
    let outcome := (register L.logged d source).run log
    outcome.2 = log ++ (untilRefused L d raws.eraseDups).map .parse ∧
      ((∃ fault, outcome.1 = .error fault) ↔
        ∃ raw ∈ raws, ∃ fault, Id.run (L.parse d raw) = .error fault) ∧
      (∀ fault, outcome.1 = .error fault ↔
        ∃ before raw after, raws = before ++ raw :: after ∧
          (∀ earlier ∈ before, ∃ expression, Id.run (L.parse d earlier) = .ok expression) ∧
          Id.run (L.parse d raw) = .error fault) ∧
      (∀ registry, outcome.1 = .ok registry →
        registry.map Prod.fst = raws.eraseDups ∧ raws.eraseDups.Nodup ∧
        (∀ raw, registry.contains raw = true ↔ raw ∈ raws) ∧
        (∀ raw expression, get? raw registry = some expression ↔
          raw ∈ raws ∧ Id.run (L.parse d raw) = .ok expression) ∧
        registry.length = raws.eraseDups.length) ∧
      outcome.1 = Id.run (register L d source) := by
  intro raws outcome
  have hraws : raws = d.raws source := map_raw_visited L d source log
  have hsame : outcome.1 = Id.run (register L d source) := fst_run_register_logged source log
  refine ⟨?_, ?_, fun fault => ?_, fun registry hok => ?_, hsame⟩
  · rw [hraws]
    exact congrArg Prod.snd (run_register_logged source log)
  · rw [hsame, hraws, run_register, exists_mapM_eq_error_iff]
    simp only [List.mem_eraseDups, registered?_eq_error_iff]
  · rw [hsame, hraws]
    exact register_eq_error_iff
  · rw [hsame] at hok
    have hkeys := keys_of_register hok
    rw [hraws]
    refine ⟨hkeys, nodup_eraseDups _, fun raw => ⟨fun hkey => ?_, (register_ok hok).1 raw⟩,
      fun raw expression => get?_eq_some_iff hok, by rw [← hkeys, List.length_map]⟩
    obtain ⟨expression, hfound⟩ := Option.isSome_iff_exists.mp hkey
    exact ((get?_eq_some_iff hok).mp hfound).1

end Registry

end FaultPages
