import FaultPages.Settings.Basic
import Mathlib.Logic.Basic

/-! # Paths — what valid settings say about them

    Validating looks at the error path and at the context path.  The servlet path stands
    in front of the error path, so the error page is rooted where that is
    (`head?_errorPagePath`). -/

namespace FaultPages.Settings

variable {s : Settings}

/-- What validating looks at. -/
theorem validate_eq_ok : s.validate = .ok () ↔
    s.error.path.head? = some '/' ∧
      (s.contextPath = [] ∨ s.contextPath.head? = some '/' ∧ s.contextPath.getLast? ≠ some '/') := by
  rw [validate]
  split
  · rename_i herror
    constructor
    · intro h
      cases h
    · rintro ⟨h, -⟩
      exact absurd h herror
  · rename_i herror
    rw [not_not] at herror
    split
    · rename_i hcontext
      constructor
      · intro h
        cases h
      · rintro ⟨-, h⟩
        rcases h with h | ⟨hhead, hlast⟩
        · exact absurd h hcontext.1
        · rcases hcontext.2 with h | h
          · exact absurd hhead h
          · exact absurd h hlast
    · rename_i hcontext
      refine ⟨fun _ => ⟨herror, ?_⟩, fun _ => rfl⟩
      by_cases hnil : s.contextPath = []
      · exact .inl hnil
      · rw [not_and, not_or, not_not] at hcontext
        exact .inr (hcontext hnil)

/-- No slash ends a context path. -/
theorem getLast?_contextPath (hvalid : s.validate = .ok ()) (hne : s.contextPath ≠ []) :
    s.contextPath.getLast? ≠ some '/' :=
  ((validate_eq_ok.mp hvalid).2.resolve_left hne).2

/-- The error page is rooted where the servlet path is. -/
theorem head?_errorPagePath (herror : s.error.path.head? = some '/') :
    s.errorPagePath.head? = some '/' ↔ s.servletBase = [] ∨ s.servletBase.head? = some '/' := by
  rw [errorPagePath]
  cases s.servletBase with
  | nil => simp [herror]
  | cons c rest => simp

end FaultPages.Settings
