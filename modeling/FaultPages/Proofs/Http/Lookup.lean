import FaultPages.Http.Lookup

/-! # Lookup — which pattern is followed does not depend on the values

    What the patterns stand for is only handed on.  So a lookup finds the same
    pattern whatever the values are, and what it finds in patterns with changed
    values is the changed value (`lookup?_mapValues`). -/

namespace FaultPages.Http

variable {α β : Type}

/-- Change what was found. -/
def Lookup.map (g : α → β) : Lookup α → Lookup β
  | .found value => .found (g value)
  | .absent => .absent
  | .blocked => .blocked

namespace Patterns

/-- Change what the patterns stand for. -/
def mapValues (g : α → β) (patterns : Patterns α) : Patterns β :=
  patterns.map fun (p, value) => (p, g value)

variable (g : α → β) (patterns : Patterns α)

@[simp]
theorem after_mapValues (piece : Piece) :
    (patterns.mapValues g).after piece = (patterns.after piece).mapValues g := by
  induction patterns with
  | nil => rfl
  | cons entry patterns ih =>
      obtain ⟨p, value⟩ := entry
      cases p with
      | nil => exact ih
      | cons a p =>
          show (if a = piece then (p, g value) :: (mapValues g patterns).after piece
            else (mapValues g patterns).after piece) = _
          rw [ih, after]
          split
          · rfl
          · rfl

@[simp]
theorem here?_mapValues : (patterns.mapValues g).here? = patterns.here?.map g := by
  induction patterns with
  | nil => rfl
  | cons entry patterns ih =>
      obtain ⟨p, value⟩ := entry
      cases p with
      | nil => rfl
      | cons a p => exact ih

@[simp]
theorem isFork_mapValues : (patterns.mapValues g).isFork = patterns.isFork := by
  cases patterns with
  | nil => rfl
  | cons entry patterns =>
      show (leadByte? entry.1 == none || (mapValues g patterns).any _) = _
      rw [mapValues, List.any_map]
      rfl

@[simp]
theorem isEmpty_mapValues : (patterns.mapValues g).isEmpty = patterns.isEmpty :=
  List.isEmpty_map

/-- A path is followed in the same way, whatever the patterns stand for. -/
theorem follow_mapValues (passed : Passed) (path : Text) :
    (patterns.mapValues g).follow passed path = (patterns.follow passed path).map g := by
  induction path generalizing passed patterns with
  | nil =>
      simp only [follow, here?_mapValues, after_mapValues, isFork_mapValues, Option.isSome_map]
      cases patterns.here? with
      | some value => rfl
      | none =>
          simp only [Option.map_none]
          split
          · rfl
          · rfl
  | cons c t ih =>
      simp only [follow, after_mapValues, isFork_mapValues, isEmpty_mapValues, here?_mapValues, ih]
      split
      · split
        · rfl
        · rfl
      · split
        · -- the literal patterns are tried first, and decide unless they are left without a trace
          have hliteral : ∀ passing, (if (patterns.after (.char c)).isEmpty then Lookup.absent
              else ((patterns.after (.char c)).follow passing t).map g)
              = (if (patterns.after (.char c)).isEmpty then Lookup.absent
                else (patterns.after (.char c)).follow passing t).map g := by
            intro passing
            split
            · rfl
            · rfl
          rw [hliteral]
          cases (if (patterns.after (.char c)).isEmpty then Lookup.absent
            else (patterns.after (.char c)).follow (if c = '/' then Passed.slash else .literal) t) with
          | found value => rfl
          | blocked => rfl
          | absent =>
              simp only [Lookup.map]
              split
              · cases ((patterns.after .rest).here?) with
                | some value => rfl
                | none =>
                    simp only [Option.map_none]
                    split
                    · rfl
                    · rfl
              · split
                · rfl
                · rfl
        · rfl

/-- **What is found is the changed value of what would have been found.** -/
theorem lookup?_mapValues (path : Text) :
    (patterns.mapValues g).lookup? path = (patterns.lookup? path).map g := by
  rw [lookup?, lookup?, follow_mapValues]
  cases patterns.follow .literal path with
  | found value => rfl
  | absent => rfl
  | blocked => rfl

end Patterns

end FaultPages.Http
