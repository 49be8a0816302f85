import FaultPages.Placeholder.Closing

/-! # Scanning — a text rebuilt with its placeholders replaced

    `firstToken?` cuts a text at its first placeholder.  `scan` visits the
    placeholders inside that one, then the placeholder itself, then the rest;
    only pieces of the text are ever cut, never what a resolver returned.  An
    opening that is never closed ends the scan, and all from there on is kept. -/

namespace FaultPages

/-- A placeholder as a resolver sees it: the text between the delimiters as it
    is written, and with the placeholders inside it replaced. -/
structure Placeholder where
  raw : Text
  text : Text
  deriving DecidableEq, Repr

/-- A text cut at its first placeholder: what comes before it, what it holds,
    and what comes after it. -/
structure Token where
  before : Text
  raw : Text
  rest : Text
  deriving DecidableEq, Repr

namespace Delimiters

/-- The first placeholder of a text.  There is none if the first opening is
    never closed, even if a later one is. -/
def firstToken? (d : Delimiters) (t : Text) : Option Token :=
  match Text.cutBefore d.opening t with
  | none => none
  | some (before, tail) =>
    (d.cutAtClosing (tail.drop d.opening.length)).map fun (raw, rest) => ⟨before, raw, rest⟩

/-- A text is its first placeholder with all that stands around it. -/
theorem firstToken?_append {d : Delimiters} {t : Text} {token : Token}
    (h : d.firstToken? t = some token) :
    token.before ++ d.wrap token.raw ++ token.rest = t := by
  simp only [firstToken?] at h
  split at h
  · simp at h
  · rename_i before tail hcut
    simp only [Option.map_eq_some_iff] at h
    obtain ⟨⟨raw, rest⟩, hclose, rfl⟩ := h
    have hbody := cutAtClosing_append hclose
    have hall := Text.cutBefore_append hcut
    obtain ⟨more, hmore⟩ := Text.needle_of_cutBefore hcut
    have hdrop : tail.drop d.opening.length = more := by
      rw [← hmore, List.drop_left]
    rw [hdrop] at hbody
    simp only [wrap]
    rw [← hall, ← hmore, ← hbody]
    simp [List.append_assoc]

/-- What a placeholder holds is shorter than the text around it. -/
theorem firstToken?_raw_length {d : Delimiters} {t : Text} {token : Token}
    (h : d.firstToken? t = some token) : token.raw.length < t.length := by
  have hlen := congrArg List.length (firstToken?_append h)
  have hne := List.length_pos_iff.mpr d.opening_ne
  simp only [wrap, List.length_append] at hlen
  omega

/-- What follows a placeholder is shorter than the text around it. -/
theorem firstToken?_rest_length {d : Delimiters} {t : Text} {token : Token}
    (h : d.firstToken? t = some token) : token.rest.length < t.length := by
  have hlen := congrArg List.length (firstToken?_append h)
  have hne := List.length_pos_iff.mpr d.opening_ne
  simp only [wrap, List.length_append] at hlen
  omega

/-- Rebuild a text, asking `resolve` for the value of each placeholder,
    innermost first and from left to right.  Where it gives nothing, nothing is
    written. -/
def scan {m : Type → Type} [Monad m] (d : Delimiters)
    (resolve : Placeholder → m (Option Text)) (t : Text) : m Text :=
  match _found : d.firstToken? t with
  | none => pure t
  | some token => do
    let inner ← d.scan resolve token.raw
    let value ← resolve ⟨token.raw, inner⟩
    let rest ← d.scan resolve token.rest
    pure (token.before ++ value.getD [] ++ rest)
termination_by t.length
decreasing_by
  · exact firstToken?_raw_length _found
  · exact firstToken?_rest_length _found

end Delimiters

end FaultPages
