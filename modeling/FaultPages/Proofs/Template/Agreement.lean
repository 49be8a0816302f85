import FaultPages.Proofs.Path.Nesting
import FaultPages.Proofs.Template.Readings

/-! # Agreement — nested placeholders are registered as they are read

    A template is compiled by two recursions: the scan that visits placeholders, and
    the reader that follows the nested ones of an expression.  What the reader finds
    in an expression, the scan has visited before it (`mem_before_of_raws_eq`), so it
    is registered with what it is read as, and the first expression that is refused
    has no nested placeholder to blame. -/

namespace FaultPages.PathTemplate

open Delimiters

/-- **Scan and reader agree on nested placeholders.**  Every path that is nested in a
    registered one, at any depth, has a text between delimiters, and is what is registered
    for that text; so the key that it is evaluated to is that of a registered placeholder.
    A template that is refused quotes the whole of the first placeholder in
    the order of visiting that cannot be read, and never for a nested placeholder that is
    not closed. -/
theorem compile_agrees (source : Text) :
    (∀ t, compile source = .ok t →
      ∀ raw path, Registry.get? raw t.expressions = some path →
        (∀ nested, path.Nests nested → ∃ inner, Path.NestsAt raw path inner nested) ∧
        ∀ inner nested, Path.NestsAt raw path inner nested →
          Registry.get? inner t.expressions = some nested ∧
          ∀ context, Segment.step? context (.nested nested)
            = (((Registry.get? inner t.expressions).bind (Path.resolve? context)).bind
                Json.Value.key?).map .key) ∧
    ∀ fault, compile source = .error fault →
      ∃ before after,
        (Registry.visited Language.paths standard source []).map Answered.raw
          = before ++ fault.expression :: after ∧
        (∀ earlier ∈ before, ∃ path, Path.parse standard earlier = .ok path) ∧
        Path.parse standard fault.expression = .error fault ∧
        ∀ offset, fault.cause ≠ .unclosedNested offset := by
  rw [compile_eq]
  constructor
  · intro t ht raw path hkey
    cases hregister : Id.run (Registry.register Language.paths standard source) with
    | error fault =>
        rw [hregister] at ht
        cases ht
    | ok registry =>
        rw [hregister] at ht
        cases ht
        obtain ⟨hraw, hread⟩ := (Registry.get?_eq_some_iff hregister).mp hkey
        have hbalanced := brackets_standard.balanced_of_mem_raws hraw
        refine ⟨fun nested hnests => ?_, fun inner nested hat => ?_⟩
        · obtain ⟨inner, hat, -⟩ := hnests.exists_text hread
          exact ⟨inner, hat⟩
        · have hinner : Registry.get? inner registry = some nested :=
            (Registry.get?_eq_some_iff hregister).mpr
              ⟨raws_subset hraw (hat.mem_raws hbalanced), hat.parse_eq hread⟩
          refine ⟨hinner, fun context => ?_⟩
          show _ = (((Registry.get? inner registry).bind _).bind _).map _
          rw [hinner, Segment.step?]
          rfl
  · intro fault hfault
    cases hregister : Id.run (Registry.register Language.paths standard source) with
    | ok registry =>
        rw [hregister] at hfault
        cases hfault
    | error fault' =>
        rw [hregister] at hfault
        cases hfault
        obtain ⟨before, raw, after, hraws, hbefore, hrefused⟩ :=
          Registry.register_eq_error_iff.mp hregister
        have hbalanced : Balanced '\x7b' '\x7d' 0 raw :=
          brackets_standard.balanced_of_mem_raws (t := source) (by simp [hraws])
        obtain ⟨rfl, hcause⟩ := Path.fault_of_parse_eq_error hbalanced
          (fun inner hinner => hbefore inner (mem_before_of_raws_eq hraws hinner)) hrefused
        exact ⟨before, after, by rw [Registry.map_raw_visited, hraws], hbefore, hrefused, hcause⟩

end FaultPages.PathTemplate
