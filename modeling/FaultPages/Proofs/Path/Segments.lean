import FaultPages.Path.Parser
import FaultPages.Proofs.Attempts

/-! # Segments — a path is read if its parts are

    `parse` reads part after part, and calls itself for the nested ones.
    `parse_eq_ok_iff` says so without the loop: all of the text is cut into
    parts, and part and segment belong together one by one. -/

namespace FaultPages

/-- A part and the segment it is read as, where `inside` says which paths the texts of
    nested placeholders are read as. -/
inductive Part.Reads (inside : Text → Path → Prop) : Part → Segment → Prop where
  | property (name : Text) : Reads inside (.property name) (.property name)
  | index (position : Nat) : Reads inside (.index position) (.index position)
  | nested {offset : Nat} {raw : Text} {path : Path} (inside_raw : inside raw path)
      (ne_nil : path ≠ []) : Reads inside (.nested offset raw) (.nested path)

/-- Parts are read in another way too, if the nested texts among them are. -/
theorem Part.Reads.forall₂_of_mem {inside inside' : Text → Path → Prop} {parts : List Part}
    {path : List Segment}
    (h : ∀ offset raw, Part.nested offset raw ∈ parts → ∀ path, inside raw path → inside' raw path)
    (hparts : List.Forall₂ (Part.Reads inside) parts path) :
    List.Forall₂ (Part.Reads inside') parts path := by
  induction hparts with
  | nil => exact .nil
  | cons hpart hrest ih =>
      refine .cons ?_ (ih fun offset raw hraw => h offset raw (List.mem_cons_of_mem _ hraw))
      cases hpart with
      | property name => exact .property name
      | index position => exact .index position
      | nested hraw hne => exact .nested (h _ _ List.mem_cons_self _ hraw) hne

namespace Path

/-- Read one part of an expression. -/
def segment? (d : Delimiters) (source : Text) : Part → Except ExpressionFault Segment
  | .property name => pure (.property name)
  | .index position => pure (.index position)
  | .nested offset raw => do
    let path ← parse d raw
    if path.isEmpty then throw ⟨source, .emptyNested offset⟩ else pure (.nested path)

/-- The path that was read, unless something behind it could not be. -/
def unlessFault (source : Text) : Option PathFault → Path → Except ExpressionFault Path
  | some cause, _ => throw ⟨source, cause⟩
  | none, path => pure path

/-- `parse` reads each part by `segment?`. -/
theorem parse_eq (d : Delimiters) (source : Text) :
    parse d source = (Parts.ofText d (Text.trim source)).parts.mapM (segment? d source) >>=
      unlessFault source (Parts.ofText d (Text.trim source)).fault := by
  rw [parse, List.mapM_subtype (g := segment? d source), List.unattach_attach]
  · refine congrArg (_ >>= ·) (funext fun path => ?_)
    cases (Parts.ofText d (Text.trim source)).fault with
    | some cause => rfl
    | none => rfl
  · intro part _
    cases part with
    | property name => rfl
    | index position => rfl
    | nested offset raw => rfl

theorem segment?_eq_ok_iff {d : Delimiters} {source : Text} {part : Part} {segment : Segment} :
    segment? d source part = .ok segment ↔
      part.Reads (fun raw path => parse d raw = .ok path) segment := by
  cases part with
  | property name =>
      constructor
      · intro h
        cases h
        exact .property name
      · intro h
        cases h
        rfl
  | index position =>
      constructor
      · intro h
        cases h
        exact .index position
      · intro h
        cases h
        rfl
  | nested offset raw =>
      rw [segment?]
      constructor
      · intro h
        cases hpath : parse d raw with
        | error fault =>
            rw [hpath] at h
            cases h
        | ok path =>
            rw [hpath] at h
            cases path with
            | nil => cases h
            | cons first rest =>
                cases h
                exact .nested hpath (List.cons_ne_nil first rest)
      · intro h
        cases h with
        | @nested _ _ path hpath hne =>
            rw [hpath]
            cases path with
            | nil => exact absurd rfl hne
            | cons first rest => rfl

/-- **An expression is read as a path if all of it is cut into parts, and these are read
    as the segments of the path.** -/
theorem parse_eq_ok_iff {d : Delimiters} {source : Text} {path : Path} :
    parse d source = .ok path ↔
      (Parts.ofText d (Text.trim source)).fault = none ∧
        List.Forall₂ (Part.Reads fun raw path => parse d raw = .ok path)
          (Parts.ofText d (Text.trim source)).parts path := by
  have hreads : (fun part segment => segment? d source part = .ok segment)
      = Part.Reads fun raw path => parse d raw = .ok path :=
    funext fun _ => funext fun _ => propext segment?_eq_ok_iff
  rw [← hreads, ← mapM_eq_ok_iff, parse_eq]
  cases (Parts.ofText d (Text.trim source)).parts.mapM (segment? d source) with
  | error fault =>
      constructor
      · intro h
        cases h
      · rintro ⟨-, ⟨⟩⟩
  | ok segments =>
      cases (Parts.ofText d (Text.trim source)).fault with
      | some cause =>
          constructor
          · intro h
            cases h
          · rintro ⟨⟨⟩, -⟩
      | none =>
          constructor
          · intro h
            cases h
            exact ⟨rfl, rfl⟩
          · rintro ⟨-, h⟩
            cases h
            rfl

end Path

end FaultPages
