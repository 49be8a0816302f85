import FaultPages.Path.Resolve

/-! # Root names — what a path reads of the root

    A path enters the root by the name of its first segment, and so do the paths that
    are nested in it.  All further steps go down into a value that was reached, so only
    these names matter, unless one of those first segments is itself nested and its name
    is computed (`resolve?_congr`).  Even then it is a name that the root is entered by, so
    what matters of a root is what is found under its names (`resolve?_ext`). -/

namespace FaultPages

open Json

mutual

/-- The root names of what is nested in a segment. -/
def Segment.rootNames : Segment → List Text
  | .nested path => Path.rootNames path
  | .property _ => []
  | .index _ => []

/-- The name that a path enters the root by, and the root names of all paths nested in
    it.  A position enters nothing. -/
def Path.rootNames : List Segment → List Text
  | [] => []
  | .property name :: path => name :: Path.innerNames path
  | .index _ :: path => Path.innerNames path
  | .nested first :: path => Path.rootNames first ++ Path.innerNames path

/-- The root names of all paths nested in some segments. -/
def Path.innerNames : List Segment → List Text
  | [] => []
  | segment :: path => segment.rootNames ++ Path.innerNames path

end

mutual

/-- Whether a path nested in a segment is dynamic. -/
def Segment.isDynamic : Segment → Bool
  | .nested path => Path.isDynamic path
  | .property _ => false
  | .index _ => false

/-- Whether a path, or one nested in it, enters the root by a name that is computed. -/
def Path.isDynamic : List Segment → Bool
  | [] => false
  | .nested _ :: _ => true
  | .property _ :: path => Path.holdsDynamic path
  | .index _ :: path => Path.holdsDynamic path

/-- Whether a path nested in some segments is dynamic. -/
def Path.holdsDynamic : List Segment → Bool
  | [] => false
  | segment :: path => segment.isDynamic || Path.holdsDynamic path

end

/-- Two roots in which the same is found under some names. -/
def AgreeOn (names : List Text) (a b : Fields) : Prop :=
  ∀ name ∈ names, Fields.get? name a = Fields.get? name b

variable {names more : List Text} {a b : Fields}

theorem AgreeOn.left (h : AgreeOn (names ++ more) a b) : AgreeOn names a b :=
  fun name hname => h name (List.mem_append.mpr (.inl hname))

theorem AgreeOn.right (h : AgreeOn (names ++ more) a b) : AgreeOn more a b :=
  fun name hname => h name (List.mem_append.mpr (.inr hname))

mutual

/-- A segment stands for the same step in both roots. -/
theorem Segment.step?_congr (segment : Segment) (hstatic : segment.isDynamic = false)
    (h : AgreeOn segment.rootNames a b) : segment.step? a = segment.step? b := by
  cases segment with
  | property name => rfl
  | index i => rfl
  | nested path => rw [Segment.step?, Segment.step?, Path.resolve?_congr path hstatic h]

/-- **A path leads to the same value** in roots that agree on its root names. -/
theorem Path.resolve?_congr (path : List Segment) (hstatic : Path.isDynamic path = false)
    (h : AgreeOn (Path.rootNames path) a b) : Path.resolve? a path = Path.resolve? b path := by
  cases path with
  | nil => rfl
  | cons segment path =>
      cases segment with
      | property name =>
          have hfirst : Fields.get? name a = Fields.get? name b := h name List.mem_cons_self
          have hrest : AgreeOn (Path.innerNames path) a b :=
            fun other hother => h other (List.mem_cons_of_mem _ hother)
          show (Fields.get? name a).bind (Path.descend? a path) = _
          rw [hfirst, funext (Path.descend?_congr path hstatic hrest)]
          rfl
      | index i => rfl
      | nested first => cases hstatic

/-- The rest of a path leads from a value to the same value. -/
theorem Path.descend?_congr (path : List Segment) (hstatic : Path.holdsDynamic path = false)
    (h : AgreeOn (Path.innerNames path) a b) (value : Value) :
    Path.descend? a path value = Path.descend? b path value := by
  cases path with
  | nil => rfl
  | cons segment path =>
      obtain ⟨hfirst, hrest⟩ := Bool.or_eq_false_iff.mp hstatic
      rw [Path.descend?, Path.descend?, Segment.step?_congr segment hfirst h.left,
        funext (Path.descend?_congr path hrest h.right)]

end

mutual

/-- A segment stands for the same step in roots that agree on all names. -/
theorem Segment.step?_ext (h : ∀ name, Fields.get? name a = Fields.get? name b)
    (segment : Segment) : segment.step? a = segment.step? b := by
  cases segment with
  | property name => rfl
  | index i => rfl
  | nested path => rw [Segment.step?, Segment.step?, Path.resolve?_ext h path]

/-- **A path enters a root by names**, so it leads to the same value in roots that agree on all
    of them, computed or not. -/
theorem Path.resolve?_ext (h : ∀ name, Fields.get? name a = Fields.get? name b)
    (path : List Segment) : Path.resolve? a path = Path.resolve? b path := by
  have henter : PathStep.enter? a = PathStep.enter? b := by
    funext step
    cases step with
    | key name => exact h name
    | position i => rfl
  cases path with
  | nil => rfl
  | cons segment path =>
      rw [Path.resolve?, Path.resolve?, Segment.step?_ext h segment, henter,
        funext (Path.descend?_ext h path)]

/-- The rest of a path leads from a value to the same value. -/
theorem Path.descend?_ext (h : ∀ name, Fields.get? name a = Fields.get? name b)
    (path : List Segment) (value : Value) :
    Path.descend? a path value = Path.descend? b path value := by
  cases path with
  | nil => rfl
  | cons segment path =>
      rw [Path.descend?, Path.descend?, Segment.step?_ext h segment,
        funext (Path.descend?_ext h path)]

end

end FaultPages
