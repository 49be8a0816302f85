import FaultPages.Proofs.Path.Places
import FaultPages.Proofs.Placeholder.Indices

/-! # Indices — the steps of a reader by byte indices

    A step of a reader can be told by an index into the text that is read: the index moves
    on by a character, by a digit or to the end of a placeholder, and a name or a nested
    text is taken from between two of them.  A step may end in a fault, as it does by
    places; besides, an index can be wrong (`Indexed`).

    At an index that is the offset of a place in the text none is wrong, and the step is
    the one by places (`memberFrom_eq`, `bracketedFrom_eq`, `closeFrom_eq`): what a `walk`
    goes over are whole characters, and an end of a placeholder is found behind its
    opening.  The place after a step lies in the text too, further on
    (`memberFrom_moves`, `closeFrom_moves`). -/

namespace FaultPages

open Text

namespace Parts

-- ── Steps by indices ─────────────────────────────────────────────────────────────

/-- What is computed by indices: a result or a fault, unless an index is wrong. -/
abbrev Indexed (ε : Type) := ExceptT ε (Except Slip)

/-- The index behind the characters that belong together from an index on.  `goes` says of
    a character and of what follows it whether it belongs to them, and `width` how far the
    index moves on then. -/
def walk (t : Text) (goes : Char → Text → Bool) (width : Char → Nat)
    (hwidth : ∀ c, 0 < width c) (index : Nat) : Except Slip Nat :=
  match _rest : between? t index (byteLength t) with
  | .error slip => .error slip
  | .ok [] => .ok index
  | .ok (c :: rest) =>
    if goes c rest then walk t goes width hwidth (index + width c) else .ok index
termination_by byteLength t - index
decreasing_by
  obtain ⟨front, behind, -, -, hlen⟩ := between?_eq_ok.mp _rest
  have hpos := hwidth c
  have hsize := c.utf8Size_pos
  rw [byteLength_cons] at hlen
  omega

/-- The index behind any blank characters. -/
def blanksFrom (t : Text) (index : Nat) : Except Slip Nat :=
  walk t (fun c _ => isBlank c) Char.utf8Size Char.utf8Size_pos index

/-- What is left to read at an index. -/
def restFrom (t : Text) (index : Nat) : Indexed PathFault Text :=
  between? t index (byteLength t)

/-- A nested placeholder, whose opening stands at this index. -/
def nestedFrom (d : Delimiters) (t : Text) (index : Nat) : Indexed PathFault (Part × Nat) := do
  match ← d.endFrom t index with
  | none => throw (.unclosedNested index)
  | some stop =>
    let inner ← between? t (index + byteLength d.opening) stop
    pure (.nested index inner, stop + byteLength d.closing)

/-- A name or a nested placeholder. -/
def memberFrom (d : Delimiters) (t : Text) (index : Nat) : Indexed PathFault (Part × Nat) := do
  let rest ← restFrom t index
  if d.opening.isPrefixOf rest then nestedFrom d t index
  else
    let stop ← walk t (fun c rest => isNameChar c && !d.opening.isPrefixOf (c :: rest))
      Char.utf8Size Char.utf8Size_pos index
    let name ← between? t index stop
    let behind ← restFrom t stop
    match name, behind with
    | [], [] => throw (.emptySegment stop)
    | [], c :: _ =>
      if c = '.' then throw (.emptySegment stop)
      else if d.opening.isPrefixOf behind then throw (.partNested stop)
      else throw (.unexpected c stop)
    | c :: _, _ =>
      if c.isDigit then throw (.leadingDigit name)
      else if d.opening.isPrefixOf behind then throw (.partNested stop)
      else pure (.property name, stop)

/-- A quoted name, whose quote stands at this index. -/
def quotedFrom (t : Text) (bracket index : Nat) (quote : Char) :
    Indexed PathFault (Part × Nat) := do
  let behind ← restFrom t (index + 1)
  match (offsets [quote] behind).head? with
  | none => throw (.unclosedKey bracket)
  | some n =>
    let name ← between? t (index + 1) (index + 1 + n)
    pure (.property name, index + 1 + (n + 1))

/-- A position, whose first digit stands at this index. -/
def positionFrom (t : Text) (index : Nat) : Indexed PathFault (Part × Nat) := do
  let stop ← walk t (fun c _ => c.isDigit) (fun _ => 1) (fun _ => Nat.one_pos) index
  let digits ← between? t index stop
  if ofDigits digits < indexBound then pure (.index (ofDigits digits), stop)
  else throw (.indexRange digits)

/-- What stands behind the bracket at an index: a quoted name, a position, or a nested
    placeholder. -/
def bracketedFrom (d : Delimiters) (t : Text) (bracket : Nat) : Indexed PathFault (Part × Nat) := do
  let index ← blanksFrom t (bracket + 1)
  match ← restFrom t index with
  | [] => throw (.unclosedBracket bracket)
  | c :: rest =>
    if c = '\'' ∨ c = '"' then quotedFrom t bracket index c
    else if c.isDigit then positionFrom t index
    else if d.opening.isPrefixOf (c :: rest) then nestedFrom d t index
    else if c = ']' then throw (.emptyBrackets index)
    else throw (.unexpected c index)

/-- The index behind the closing bracket that has to follow, perhaps after blanks. -/
def closeFrom (t : Text) (bracket index : Nat) : Indexed PathFault Nat := do
  let index ← blanksFrom t index
  match ← restFrom t index with
  | [] => throw (.unclosedBracket bracket)
  | c :: _ => if c = ']' then pure (index + 1) else throw (.unexpected c index)

/-- A step with the offset of its place as an index. -/
def Step.indexed (step : Step) : Except PathFault (Part × Nat) :=
  step.map fun r => (r.1, r.2.offset)

variable {d : Delimiters} {t : Text} {p after : Place} {part : Part} {bracket next : Nat}

-- ── Each step is the one by places ───────────────────────────────────────────────

/-- A piece that is taken is handed on. -/
private theorem lift_piece_bind {ε α β : Type} (a : α) (f : α → ExceptT ε (Except Slip) β) :
    (liftM (Except.ok a : Except Slip α) >>= f : ExceptT ε (Except Slip) β) = f a := rfl

section Walk

variable {goes : Char → Text → Bool} {width : Char → Nat} {hwidth : ∀ c, 0 < width c}
  (take : Text → Text) (hnil : take [] = [])
  (hcons : ∀ c rest, take (c :: rest) = if goes c rest then c :: take rest else [])
  (hsize : ∀ c rest, goes c rest = true → width c = c.utf8Size)

include hnil hcons hsize

private theorem walk_append (front rest : Text) :
    walk (front ++ rest) goes width hwidth (byteLength front)
      = .ok (byteLength front + byteLength (take rest)) := by
  induction rest generalizing front with
  | nil =>
      rw [walk, hnil]
      split
      · rename_i slip hslip
        cases hslip.symm.trans (between?_rest front [])
      · rfl
      · rename_i c rest hrest
        cases hrest.symm.trans (between?_rest front [])
  | cons c rest ih =>
      rw [walk, hcons]
      split
      · rename_i slip hslip
        cases hslip.symm.trans (between?_rest front (c :: rest))
      · rename_i hrest
        cases hrest.symm.trans (between?_rest front (c :: rest))
      · rename_i c' rest' hrest
        cases hrest.symm.trans (between?_rest front (c :: rest))
        by_cases hgoes : goes c rest = true
        · have hbehind := ih (front ++ [c])
          rw [byteLength_append, byteLength_cons, byteLength_nil, Nat.add_zero, List.append_assoc,
            List.singleton_append] at hbehind
          rw [if_pos hgoes, if_pos hgoes, hsize c rest hgoes, hbehind, byteLength_cons,
            Nat.add_assoc]
        · rw [if_neg hgoes, if_neg hgoes]
          rfl

/-- What belongs together is taken off the text, if the index moves on by whole characters. -/
theorem walk_eq (hp : p.In t) :
    walk t goes width hwidth p.offset = .ok (p.offset + byteLength (take p.rest)) := by
  obtain ⟨front, rfl, hoffset⟩ := hp
  rw [← hoffset]
  exact walk_append take hnil hcons hsize front p.rest

end Walk

/-- What is left to read at a place is its rest. -/
theorem restFrom_eq (hp : p.In t) : restFrom t p.offset = pure p.rest := by
  obtain ⟨front, rfl, hoffset⟩ := hp
  rw [restFrom, ← hoffset, between?_rest]
  rfl

/-- Where a rest can be taken, there is a place. -/
theorem Place.in_of_restFrom {index : Nat} {rest : Text}
    (h : (restFrom t index).run = .ok (.ok rest)) : Place.In t ⟨index, rest⟩ := by
  rw [restFrom] at h
  cases hrest : between? t index (byteLength t) with
  | error slip =>
      rw [hrest] at h
      cases h
  | ok rest' =>
      rw [hrest] at h
      cases h
      obtain ⟨front, behind, ht, hfront, hlen⟩ := between?_eq_ok.mp hrest
      have htotal := congrArg byteLength ht
      rw [byteLength_append, byteLength_append] at htotal
      have hnil : behind = [] := by
        by_contra hne
        have := byteLength_pos hne
        omega
      rw [hnil, List.append_nil] at ht
      exact ⟨front, ht, hfront⟩

/-- What stands at a place can be taken. -/
theorem Place.In.between?_here {offset : Nat} {s rest : Text}
    (hp : Place.In t ⟨offset, s ++ rest⟩) : between? t offset (offset + byteLength s) = .ok s := by
  obtain ⟨front, rfl, rfl⟩ := hp
  exact between?_eq_ok.mpr ⟨front, rest, rfl, rfl, rfl⟩

/-- A character of one byte moves the offset on by one. -/
theorem Place.skip_cons {c : Char} (hc : c.utf8Size = 1) (offset : Nat) (rest : Text) :
    Place.skip ⟨offset, c :: rest⟩ 1 = ⟨offset + 1, rest⟩ := by
  rw [Place.skip, List.take_succ_cons, List.take_zero, byteLength_cons, hc]
  rfl

theorem blanksFrom_eq (hp : p.In t) : blanksFrom t p.offset = .ok p.skipBlanks.offset := by
  have htake := List.prefix_iff_eq_take.mp (List.takeWhile_prefix isBlank (l := p.rest))
  rw [blanksFrom, walk_eq (List.takeWhile isBlank) rfl (fun c rest => List.takeWhile_cons)
    (fun c rest _ => rfl) hp, htake]
  rfl

theorem nestedFrom_eq (hp : p.In t) (hopen : d.opening.isPrefixOf p.rest = true) :
    (nestedFrom d t p.offset).run = .ok (nested d p).indexed := by
  obtain ⟨offset, rest⟩ := p
  obtain ⟨front, rfl, rfl⟩ := hp
  obtain ⟨body, rfl⟩ := List.isPrefixOf_iff_prefix.mp hopen
  have hend := d.findEnd_append front body
  rw [List.append_assoc] at hend
  rw [nestedFrom, Delimiters.endFrom_eq, hend, lift_piece_bind, nested, List.drop_left]
  cases hclose : closingIndex d.nestingOpener d.closing 0 0 body with
  | none => rfl
  | some n =>
      obtain ⟨hlt, behind, hbehind⟩ := closingIndex_spec hclose
      obtain ⟨inner, rfl, rfl⟩ :
          ∃ inner, body = inner ++ (d.closing ++ behind) ∧ n = inner.length :=
        ⟨body.take n, by rw [hbehind, List.take_append_drop],
          (List.length_take_of_le (Nat.le_of_lt hlt)).symm⟩
      have hinner : between? (front ++ (d.opening ++ (inner ++ (d.closing ++ behind))))
          (byteLength front + byteLength d.opening)
          (byteLength front + byteLength d.opening + byteLength inner) = .ok inner := by
        rw [← byteLength_append]
        exact Place.In.between?_here ⟨front ++ d.opening, (List.append_assoc ..).symm, rfl⟩
      have hskip : Place.skip ⟨byteLength front, d.opening ++ (inner ++ (d.closing ++ behind))⟩
          (d.opening.length + inner.length + d.closing.length)
            = ⟨byteLength front + byteLength d.opening + byteLength inner + byteLength d.closing,
                behind⟩ := by
        rw [← List.length_append, ← List.length_append, ← List.append_assoc, ← List.append_assoc,
          Place.skip_append, byteLength_append, byteLength_append, Nat.add_assoc, Nat.add_assoc,
          Nat.add_assoc]
      simp only [Option.map_some, List.take_left, hinner, lift_piece_bind, hskip]
      rfl

theorem memberFrom_eq (hp : p.In t) :
    (memberFrom d t p.offset).run = .ok (member d p).indexed := by
  rw [memberFrom, member, restFrom_eq hp, pure_bind]
  by_cases hopen : d.opening.isPrefixOf p.rest = true
  · rw [if_pos hopen, if_pos hopen]
    exact nestedFrom_eq hp hopen
  · rw [if_neg hopen, if_neg hopen]
    obtain ⟨offset, rest⟩ := p
    have hbehind := restFrom_eq (hp.skip (takeName d rest).length)
    rw [walk_eq (takeName d) rfl (fun c rest => rfl) (fun c rest _ => rfl) hp,
      lift_piece_bind]
    obtain ⟨⟨behind, hrest⟩, -⟩ := takeName_spec d rest
    generalize takeName d rest = name at hrest hbehind
    obtain rfl : name ++ behind = rest := hrest
    rw [Place.skip_append] at hbehind
    simp only [Place.skip_append]
    rw [hp.between?_here, lift_piece_bind, hbehind, pure_bind]
    cases name with
    | nil =>
        cases behind with
        | nil => rfl
        | cons c behind =>
            -- the name is empty, and here no opening begins
            dsimp only
            rw [List.nil_append] at hopen
            rw [if_neg hopen]
            by_cases hdot : c = '.'
            · rw [if_pos hdot, List.nil_append]
              simp only [if_pos hdot]
              rfl
            · rw [if_neg hdot, List.nil_append]
              simp only [if_neg hdot]
              rfl
    | cons c name =>
        dsimp only
        split
        · rfl
        · split
          · rfl
          · rfl

/-- A character is found behind those that are others. -/
private theorem head?_offsets_singleton (c : Char) (t : Text) :
    (offsets [c] t).head? = if (t.takeWhile (· != c)).length < t.length
      then some (byteLength (t.takeWhile (· != c))) else none := by
  induction t with
  | nil => rfl
  | cons x t ih =>
      rw [offsets_cons (List.cons_ne_nil c []), List.takeWhile_cons]
      by_cases hx : x = c
      · subst hx
        simp
      · have hstarts : ¬ ([c] : Text).isPrefixOf (x :: t) = true := by
          simpa using Ne.symm hx
        have hgoes : (x != c) = true := by simpa using hx
        rw [if_neg hstarts, if_pos hgoes, List.nil_append, List.head?_map, ih, List.length_cons,
          List.length_cons]
        split
        · rename_i hlt
          rw [if_pos (Nat.succ_lt_succ hlt), byteLength_cons]
          rfl
        · rename_i hlt
          rw [if_neg fun h => hlt (Nat.lt_of_succ_lt_succ h)]
          rfl

/-- A digit is a single byte. -/
private theorem utf8Size_of_isDigit {c : Char} (h : c.isDigit = true) : c.utf8Size = 1 := by
  simp only [Char.isDigit, Bool.and_eq_true, decide_eq_true_eq] at h
  exact Char.utf8Size_eq_one_iff.mpr (UInt32.le_trans h.2 (by decide))

theorem quotedFrom_eq {offset : Nat} {quote : Char} {rest : Text} (hquote : quote.utf8Size = 1)
    (hp : Place.In t ⟨offset, quote :: rest⟩) :
    (quotedFrom t bracket offset quote).run
      = .ok (Step.indexed (if (rest.takeWhile (· != quote)).length < rest.length
          then .ok (.property (rest.takeWhile (· != quote)),
            Place.skip ⟨offset, quote :: rest⟩ ((rest.takeWhile (· != quote)).length + 2))
          else .error (.unclosedKey bracket))) := by
  have hin := hp.skip 1
  rw [Place.skip_cons hquote] at hin
  rw [quotedFrom, restFrom_eq hin, pure_bind, head?_offsets_singleton]
  obtain ⟨name, behind, rfl, hname, hbehind⟩ := exists_takeWhile (· != quote) rest
  rw [takeWhile_append hname hbehind]
  cases behind with
  | nil =>
      rw [List.append_nil, if_neg (Nat.lt_irrefl _), if_neg (Nat.lt_irrefl _)]
      rfl
  | cons c behind =>
      have hc : c = quote := by simpa using hbehind c rfl
      subst hc
      have hlt : name.length < (name ++ c :: behind).length := by simp
      have hskip : Place.skip ⟨offset, c :: (name ++ c :: behind)⟩ (name.length + 2)
          = ⟨offset + 1 + (byteLength name + 1), behind⟩ := by
        have hall : c :: (name ++ c :: behind) = c :: (name ++ [c]) ++ behind := by simp
        have hlen : name.length + 2 = (c :: (name ++ [c])).length := by simp
        rw [hall, hlen, Place.skip_append, byteLength_cons, byteLength_append, byteLength_cons,
          byteLength_nil, hquote, Nat.add_assoc]
      rw [if_pos hlt, if_pos hlt, hskip]
      dsimp only
      rw [hin.between?_here, lift_piece_bind]
      rfl

theorem positionFrom_eq (hp : p.In t) :
    (positionFrom t p.offset).run
      = .ok (Step.indexed (if ofDigits (p.rest.takeWhile Char.isDigit) < indexBound
          then .ok (.index (ofDigits (p.rest.takeWhile Char.isDigit)),
            p.skip (p.rest.takeWhile Char.isDigit).length)
          else .error (.indexRange (p.rest.takeWhile Char.isDigit)))) := by
  obtain ⟨offset, rest⟩ := p
  rw [positionFrom, walk_eq (List.takeWhile Char.isDigit) rfl
    (fun c rest => List.takeWhile_cons) (fun c rest h => (utf8Size_of_isDigit h).symm) hp,
    lift_piece_bind]
  dsimp only
  obtain ⟨behind, hrest⟩ := List.takeWhile_prefix Char.isDigit (l := rest)
  generalize rest.takeWhile Char.isDigit = digits at hrest
  subst hrest
  rw [hp.between?_here, lift_piece_bind, Place.skip_append]
  split
  · rfl
  · rfl

theorem bracketedFrom_eq {body : Text} (hp : p.In t) (hrest : p.rest = '[' :: body) :
    (bracketedFrom d t p.offset).run
      = .ok (bracketed d p.offset (p.skip 1).skipBlanks).indexed := by
  obtain ⟨offset, rest⟩ := p
  subst hrest
  have hin := hp.skip 1
  rw [Place.skip_cons rfl] at hin ⊢
  rw [bracketedFrom, blanksFrom_eq hin, lift_piece_bind]
  have hq := hin.skipBlanks
  generalize (Place.mk (offset + 1) body).skipBlanks = q at hq
  obtain ⟨index, rest⟩ := q
  rw [restFrom_eq hq, pure_bind, bracketed]
  cases rest with
  | nil => rfl
  | cons c rest =>
      dsimp only
      by_cases hquote : c = '\'' ∨ c = '"'
      · have hsize : c.utf8Size = 1 := by
          rcases hquote with rfl | rfl
          · rfl
          · rfl
        rw [if_pos hquote, if_pos hquote]
        exact quotedFrom_eq hsize hq
      · rw [if_neg hquote, if_neg hquote]
        by_cases hdigit : c.isDigit = true
        · rw [if_pos hdigit, if_pos hdigit]
          exact positionFrom_eq hq
        · rw [if_neg hdigit, if_neg hdigit]
          by_cases hopen : d.opening.isPrefixOf (c :: rest) = true
          · rw [if_pos hopen, if_pos hopen]
            exact nestedFrom_eq hq hopen
          · rw [if_neg hopen, if_neg hopen]
            split
            · rfl
            · rfl

theorem closeFrom_eq (hp : p.In t) :
    (closeFrom t bracket p.offset).run = .ok ((closeBracket bracket p).map Place.offset) := by
  rw [closeFrom, blanksFrom_eq hp, lift_piece_bind, closeBracket]
  have hq := hp.skipBlanks
  generalize p.skipBlanks = q at hq
  obtain ⟨index, rest⟩ := q
  rw [restFrom_eq hq, pure_bind]
  cases rest with
  | nil => rfl
  | cons c rest =>
      dsimp only
      by_cases hc : c = ']'
      · subst hc
        rfl
      · rw [if_neg hc, if_neg hc]
        rfl

-- ── Every step moves on ──────────────────────────────────────────────────────────

theorem nested_after_in (hp : p.In t) (h : nested d p = .ok (part, after)) : after.In t := by
  rw [nested] at h
  split at h
  · cases h
  · cases h
    exact hp.skip _

theorem member_after_in (hp : p.In t) (h : member d p = .ok (part, after)) : after.In t := by
  rw [member] at h
  split at h
  · exact nested_after_in hp h
  · dsimp only at h
    split at h
    · split at h
      · cases h
      · cases h
    · split at h
      · cases h
      · split at h
        · cases h
        · cases h
          exact hp.skip _

theorem bracketed_after_in (hp : p.In t) (h : bracketed d bracket p = .ok (part, after)) :
    after.In t := by
  rw [bracketed] at h
  split at h
  · cases h
  · dsimp only at h
    split at h
    · split at h
      · cases h
        exact hp.skip _
      · cases h
    · split at h
      · split at h
        · cases h
          exact hp.skip _
        · cases h
      · split at h
        · exact nested_after_in hp h
        · split at h
          · cases h
          · cases h

/-- A place with less behind it stands further on in the text. -/
theorem Place.In.remaining_lt {q : Place} (hp : p.In t) (hq : q.In t)
    (h : q.rest.length < p.rest.length) :
    byteLength t - q.offset < byteLength t - p.offset := by
  obtain ⟨front, ht, hoffset⟩ := hp
  obtain ⟨front', ht', hoffset'⟩ := hq
  have hlen := congrArg List.length (ht.symm.trans ht')
  rw [List.length_append, List.length_append] at hlen
  have hprefix : front <+: t := ⟨p.rest, ht.symm⟩
  obtain ⟨more, hmore⟩ := List.prefix_of_prefix_length_le hprefix ⟨q.rest, ht'.symm⟩ (by omega)
  have hne : more ≠ [] := by
    rintro rfl
    rw [List.append_nil] at hmore
    rw [hmore] at hlen
    omega
  have hpos := byteLength_pos hne
  have htotal := congrArg byteLength ht'
  rw [← hmore, byteLength_append, byteLength_append] at htotal
  rw [← hoffset, ← hoffset', ← hmore, byteLength_append]
  omega

theorem Step.indexed_eq_ok {step : Step} :
    step.indexed = .ok (part, next) ↔ ∃ after, step = .ok (part, after) ∧ after.offset = next := by
  cases step with
  | error fault =>
      constructor
      · intro h
        cases h
      · rintro ⟨after, ⟨⟩, -⟩
  | ok r =>
      constructor
      · intro h
        cases h
        exact ⟨r.2, rfl, rfl⟩
      · rintro ⟨after, ⟨⟩, rfl⟩
        rfl

/-- A member that is taken holds less than the text, and the index moves on. -/
theorem memberFrom_moves {index : Nat} {rest : Text}
    (hrest : (restFrom t index).run = .ok (.ok rest))
    (h : (memberFrom d t index).run = .ok (.ok (part, next))) :
    part.size ≤ t.length ∧ byteLength t - next < byteLength t - index := by
  have hp := Place.in_of_restFrom hrest
  rw [memberFrom_eq hp] at h
  obtain ⟨after, hmember, rfl⟩ := Step.indexed_eq_ok.mp (Except.ok.inj h)
  obtain ⟨front, rfl, -⟩ := id hp
  refine ⟨Nat.le_trans (member_size hmember) ?_,
    hp.remaining_lt (member_after_in hp hmember) (member_rest_length hmember)⟩
  rw [List.length_append]
  exact Nat.le_add_left _ _

section Brackets

variable {index inside : Nat} {body : Text}
  (hrest : (restFrom t index).run = .ok (.ok ('[' :: body)))
  (h : (bracketedFrom d t index).run = .ok (.ok (part, inside)))

include hrest h

/-- What is taken in brackets ends at a place of the text. -/
private theorem exists_bracketed : ∃ after : Place, after.In t ∧ after.offset = inside ∧
    after.rest.length < ('[' :: body).length ∧ part.size < ('[' :: body).length := by
  have hp := Place.in_of_restFrom hrest
  rw [bracketedFrom_eq hp rfl] at h
  obtain ⟨after, hbracketed, rfl⟩ := Step.indexed_eq_ok.mp (Except.ok.inj h)
  have hlen : ((Place.skip ⟨index, '[' :: body⟩ 1).skipBlanks).rest.length
      < ('[' :: body).length := by
    rw [Place.skipBlanks, Place.skip_rest_length, Place.skip_rest_length, List.length_cons]
    omega
  exact ⟨after, bracketed_after_in (hp.skip 1).skipBlanks hbracketed, rfl,
    Nat.lt_of_le_of_lt (bracketed_rest_length hbracketed) hlen,
    Nat.lt_of_le_of_lt (bracketed_size hbracketed) hlen⟩

/-- What is taken in brackets holds less than the text. -/
theorem bracketedFrom_size : part.size ≤ t.length := by
  obtain ⟨after, -, -, -, hsize⟩ := exists_bracketed hrest h
  obtain ⟨front, rfl, -⟩ := Place.in_of_restFrom hrest
  rw [List.length_append]
  exact Nat.le_trans (Nat.le_of_lt hsize) (Nat.le_add_left _ _)

/-- Behind the closing bracket, the index has moved on. -/
theorem closeFrom_moves (hclose : (closeFrom t index inside).run = .ok (.ok next)) :
    byteLength t - next < byteLength t - index := by
  obtain ⟨after, hin, rfl, hlen, -⟩ := exists_bracketed hrest h
  rw [closeFrom_eq hin] at hclose
  cases hbehind : closeBracket index after with
  | error fault =>
      rw [hbehind] at hclose
      cases hclose
  | ok behind =>
      rw [hbehind] at hclose
      cases hclose
      exact (Place.in_of_restFrom hrest).remaining_lt ((closeBracket_in hin).1 behind hbehind)
        (Nat.lt_of_le_of_lt (closeBracket_rest_length hbehind) hlen)

end Brackets

/-- Behind a dot, the index has moved on. -/
theorem dot_moves {index : Nat} {body : Text}
    (hrest : (restFrom t index).run = .ok (.ok ('.' :: body))) :
    byteLength t - (index + 1) < byteLength t - index := by
  have hp := Place.in_of_restFrom hrest
  have hlt := hp.remaining_lt (hp.skip 1) (by simp)
  rwa [Place.skip_cons rfl] at hlt

end Parts

end FaultPages
