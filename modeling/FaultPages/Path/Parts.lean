import FaultPages.Path.Basic
import FaultPages.Placeholder.Closing
import FaultPages.Text.Alphanumeric

/-! # Parts — an expression cut into its segments

    `Parts.ofText` reads an expression from left to right and cuts it into
    names, positions and the raw texts of nested placeholders.  It stops at the
    first fault and keeps the parts before it, because a fault inside an
    earlier nested placeholder is reported first.  Offsets count bytes of the
    text that is read. -/

namespace FaultPages

/-- A segment whose nested placeholder has not been read yet. -/
inductive Part where
  | property (name : Text)
  | index (position : Nat)
  /-- A nested placeholder: the offset of its opening, and what it holds. -/
  | nested (offset : Nat) (raw : Text)
  deriving DecidableEq, Repr

/-- How much text a part takes up at least. -/
def Part.size : Part → Nat
  | .nested _ raw => raw.length + 1
  | _ => 0

/-- The parts of an expression up to its end or to the first fault. -/
structure Parts where
  parts : List Part
  fault : Option PathFault
  deriving DecidableEq, Repr

namespace Parts

/-- An expression with a fault right at its start. -/
def failed (fault : PathFault) : Parts := ⟨[], some fault⟩

/-- A part in front of others. -/
def cons (part : Part) (p : Parts) : Parts := ⟨part :: p.parts, p.fault⟩

-- ── Reading one step ─────────────────────────────────────────────────────────────

/-- A place in the text that is read: a byte offset, and the text from there
    on. -/
structure Place where
  offset : Nat
  rest : Text
  deriving DecidableEq, Repr

/-- The place after the first `n` characters. -/
def Place.skip (p : Place) (n : Nat) : Place :=
  ⟨p.offset + Text.byteLength (p.rest.take n), p.rest.drop n⟩

/-- The place after any blank characters. -/
def Place.skipBlanks (p : Place) : Place := p.skip (p.rest.takeWhile Text.isBlank).length

/-- Whether a character may stand in a name. -/
def isNameChar (c : Char) : Bool := Text.isAlphanumeric c || c == '_' || c == '$'

/-- The longest name at the start of a text.  It ends where a nested
    placeholder opens. -/
def takeName (d : Delimiters) : Text → Text
  | [] => []
  | c :: rest =>
    if isNameChar c && !d.opening.isPrefixOf (c :: rest) then c :: takeName d rest else []

/-- A part, and the place after it. -/
abbrev Step := Except PathFault (Part × Place)

/-- A nested placeholder, whose opening stands at this place. -/
def nested (d : Delimiters) (p : Place) : Step :=
  match closingIndex d.nestingOpener d.closing 0 0 (p.rest.drop d.opening.length) with
  | none => .error (.unclosedNested p.offset)
  | some n =>
    .ok (.nested p.offset ((p.rest.drop d.opening.length).take n),
      p.skip (d.opening.length + n + d.closing.length))

/-- A name or a nested placeholder. -/
def member (d : Delimiters) (p : Place) : Step :=
  if d.opening.isPrefixOf p.rest then nested d p
  else
    let name := takeName d p.rest
    let after := p.skip name.length
    match name with
    | [] =>
      match p.rest with
      | [] => .error (.emptySegment p.offset)
      | c :: _ => .error (if c = '.' then .emptySegment p.offset else .unexpected c p.offset)
    | c :: _ =>
      if c.isDigit then .error (.leadingDigit name)
      else if d.opening.isPrefixOf after.rest then .error (.partNested after.offset)
      else .ok (.property name, after)

/-- What stands between a bracket at offset `bracket` and its closing one:
    a quoted name, a position, or a nested placeholder. -/
def bracketed (d : Delimiters) (bracket : Nat) (p : Place) : Step :=
  match p.rest with
  | [] => .error (.unclosedBracket bracket)
  | c :: rest =>
    if c = '\'' ∨ c = '"' then
      let name := rest.takeWhile (· != c)
      if name.length < rest.length then .ok (.property name, p.skip (name.length + 2))
      else .error (.unclosedKey bracket)
    else if c.isDigit then
      let digits := p.rest.takeWhile Char.isDigit
      let position := Text.ofDigits digits
      if position < Text.indexBound then .ok (.index position, p.skip digits.length)
      else .error (.indexRange digits)
    else if d.opening.isPrefixOf p.rest then nested d p
    else if c = ']' then .error (.emptyBrackets p.offset)
    else .error (.unexpected c p.offset)

/-- The place after the closing bracket that has to follow, perhaps after
    blanks. -/
def closeBracket (bracket : Nat) (p : Place) : Except PathFault Place :=
  let p := p.skipBlanks
  match p.rest with
  | [] => .error (.unclosedBracket bracket)
  | c :: _ => if c = ']' then .ok (p.skip 1) else .error (.unexpected c p.offset)

/-- What is read next. -/
inductive Expecting where
  /-- The first segment of a path, which may be in brackets. -/
  | head
  /-- A name or a nested placeholder, after a dot. -/
  | member
  /-- A bracket, a dot, or the end. -/
  | more
  deriving DecidableEq, Repr

-- ── Every step takes up some of the text ─────────────────────────────────────────

/-- Skipping leaves that much less to read. -/
@[simp] theorem Place.skip_rest_length (p : Place) (n : Nat) :
    (p.skip n).rest.length = p.rest.length - n := by
  simp [Place.skip]

/-- A nested placeholder takes up some of the text. -/
theorem nested_rest_length {d : Delimiters} {p after : Place} {part : Part}
    (h : nested d p = .ok (part, after)) : after.rest.length < p.rest.length := by
  simp only [nested] at h
  split at h
  · simp at h
  · rename_i n hn
    simp only [Except.ok.injEq, Prod.mk.injEq] at h
    obtain ⟨_, rfl⟩ := h
    have hlt := (closingIndex_spec hn).1
    have hne := List.length_pos_iff.mpr d.opening_ne
    simp only [List.length_drop] at hlt
    simp only [Place.skip_rest_length]
    omega

/-- A name or a nested placeholder takes up some of the text. -/
theorem member_rest_length {d : Delimiters} {p after : Place} {part : Part}
    (h : member d p = .ok (part, after)) : after.rest.length < p.rest.length := by
  simp only [member] at h
  split at h
  · exact nested_rest_length h
  · split at h
    · split at h <;> simp at h
    · rename_i c rest hname
      split at h
      · simp at h
      · split at h
        · simp at h
        · simp only [Except.ok.injEq, Prod.mk.injEq] at h
          obtain ⟨_, rfl⟩ := h
          have hne : p.rest ≠ [] := by
            intro hnil
            simp [hnil, takeName] at hname
          have := List.length_pos_iff.mpr hne
          simp only [hname, Place.skip_rest_length, List.length_cons]
          omega

/-- What stands in brackets takes up some of the text. -/
theorem bracketed_rest_length {d : Delimiters} {bracket : Nat} {p after : Place} {part : Part}
    (h : bracketed d bracket p = .ok (part, after)) : after.rest.length ≤ p.rest.length := by
  simp only [bracketed] at h
  split at h
  · simp at h
  · split at h
    · split at h
      · simp only [Except.ok.injEq, Prod.mk.injEq] at h
        obtain ⟨_, rfl⟩ := h
        simp
      · simp at h
    · split at h
      · split at h
        · simp only [Except.ok.injEq, Prod.mk.injEq] at h
          obtain ⟨_, rfl⟩ := h
          simp
        · simp at h
      · split at h
        · exact Nat.le_of_lt (nested_rest_length h)
        · split at h <;> simp at h

/-- A closing bracket leaves no more than there was. -/
theorem closeBracket_rest_length {bracket : Nat} {p after : Place}
    (h : closeBracket bracket p = .ok after) : after.rest.length ≤ p.rest.length := by
  simp only [closeBracket] at h
  split at h
  · simp at h
  · split at h
    · simp only [Except.ok.injEq] at h
      subst h
      simp only [Place.skipBlanks, Place.skip_rest_length]
      omega
    · simp at h

-- ── Reading to the end ───────────────────────────────────────────────────────────

/-- Read parts up to the end of the text or to the first fault. -/
def read (d : Delimiters) (expecting : Expecting) (p : Place) : Parts :=
  if expecting = .member ∨ (expecting = .head ∧ p.rest.head? ≠ some '[') then
    match _read : member d p with
    | .error fault => failed fault
    | .ok (part, after) => (read d .more after).cons part
  else
    match _rest : p.rest with
    | [] => ⟨[], none⟩
    | '[' :: _ =>
      match _inside : bracketed d p.offset (p.skip 1).skipBlanks with
      | .error fault => failed fault
      | .ok (part, inside) =>
        match _close : closeBracket p.offset inside with
        | .error fault => ⟨[part], some fault⟩
        | .ok after => (read d .more after).cons part
    | ['.'] => failed (.emptySegment (p.offset + 1))
    | '.' :: _ => read d .member (p.skip 1)
    | c :: _ =>
      failed (if d.opening.isPrefixOf p.rest then .partNested p.offset
        else .unexpected c p.offset)
termination_by p.rest.length
decreasing_by
  · exact member_rest_length _read
  · have h₁ := closeBracket_rest_length _close
    have h₂ := bracketed_rest_length _inside
    simp only [Place.skipBlanks, Place.skip_rest_length] at h₂
    simp only [_rest, List.length_cons] at h₂ ⊢
    omega
  · simp only [Place.skip_rest_length, _rest, List.length_cons]
    omega

/-- The parts of an expression without blanks around it. -/
def ofText (d : Delimiters) (t : Text) : Parts :=
  if t = [] then ⟨[], none⟩ else read d .head ⟨0, t⟩

-- ── Nested placeholders hold less than the text around them ──────────────────────

/-- A nested placeholder holds less than the text it stands in. -/
theorem nested_size {d : Delimiters} {p after : Place} {part : Part}
    (h : nested d p = .ok (part, after)) : part.size ≤ p.rest.length := by
  simp only [nested] at h
  split at h
  · simp at h
  · rename_i n hn
    simp only [Except.ok.injEq, Prod.mk.injEq] at h
    obtain ⟨rfl, _⟩ := h
    have hlt := (closingIndex_spec hn).1
    simp only [List.length_drop] at hlt
    simp only [Part.size, List.length_take, List.length_drop]
    omega

/-- So does every member. -/
theorem member_size {d : Delimiters} {p after : Place} {part : Part}
    (h : member d p = .ok (part, after)) : part.size ≤ p.rest.length := by
  simp only [member] at h
  split at h
  · exact nested_size h
  · split at h
    · split at h <;> simp at h
    · split at h
      · simp at h
      · split at h
        · simp at h
        · simp only [Except.ok.injEq, Prod.mk.injEq] at h
          obtain ⟨rfl, _⟩ := h
          simp [Part.size]

/-- So does everything in brackets. -/
theorem bracketed_size {d : Delimiters} {bracket : Nat} {p after : Place} {part : Part}
    (h : bracketed d bracket p = .ok (part, after)) : part.size ≤ p.rest.length := by
  simp only [bracketed] at h
  split at h
  · simp at h
  · split at h
    · split at h
      · simp only [Except.ok.injEq, Prod.mk.injEq] at h
        obtain ⟨rfl, _⟩ := h
        simp [Part.size]
      · simp at h
    · split at h
      · split at h
        · simp only [Except.ok.injEq, Prod.mk.injEq] at h
          obtain ⟨rfl, _⟩ := h
          simp [Part.size]
        · simp at h
      · split at h
        · exact nested_size h
        · split at h <;> simp at h

/-- Every part that is read holds less than the text. -/
theorem size_of_mem_read {d : Delimiters} {expecting : Expecting} {p : Place} {part : Part}
    (h : part ∈ (read d expecting p).parts) : part.size ≤ p.rest.length := by
  fun_induction read d expecting p with
  | case1 _ _ _ _ _ => simp [failed] at h
  | case2 expecting p _ first after hread ih =>
    rcases List.mem_cons.mp h with rfl | hmem
    · exact member_size hread
    · exact Nat.le_trans (ih hmem) (Nat.le_of_lt (member_rest_length hread))
  | case3 => simp at h
  | case4 => simp [failed] at h
  | case5 expecting p _ tail _ first inside hread fault _ =>
    simp only [List.mem_singleton] at h
    subst h
    have := bracketed_size hread
    simp only [Place.skipBlanks, Place.skip_rest_length] at this
    omega
  | case6 expecting p _ tail _ first inside hread after hclose ih =>
    have hstep := closeBracket_rest_length hclose
    have hinside := bracketed_rest_length hread
    simp only [Place.skipBlanks, Place.skip_rest_length] at hinside
    rcases List.mem_cons.mp h with rfl | hmem
    · have := bracketed_size hread
      simp only [Place.skipBlanks, Place.skip_rest_length] at this
      omega
    · have := ih hmem
      omega
  | case7 => simp [failed] at h
  | case8 expecting p _ tail _ _ ih =>
    have := ih h
    simp only [Place.skip_rest_length] at this
    omega
  | case9 => simp [failed] at h

/-- What a nested placeholder of an expression holds is shorter than the
    expression. -/
theorem raw_length_lt {d : Delimiters} {t raw : Text} {offset : Nat}
    (h : Part.nested offset raw ∈ (ofText d t).parts) : raw.length < t.length := by
  simp only [ofText] at h
  split at h
  · simp at h
  · exact size_of_mem_read h

end Parts

end FaultPages
