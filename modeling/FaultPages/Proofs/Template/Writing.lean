import FaultPages.Template.Sink

/-! # Writing — outputs that share one sink

    A sink takes what there is room for, however small the parts are in which it takes it:
    writing all bytes fills it by as many of them as fit, and fails if that is not all
    (`writeAll_eq`).  Filling goes along with concatenation (`fill_append`), so by induction
    outputs written one after the other are taken as one text would be (`writeEach_after`), and
    each succeeds if what was written up to its end fits, or if there is nothing of it to write.

    `writes` is the same writing with its single writes in sight. -/

namespace FaultPages

namespace Sink

-- ── Single writes ────────────────────────────────────────────────────────────────

/-- One write: how many bytes were taken, or the fault of a sink without room. -/
def write (s : Sink) (bytes : List UInt8) : Except IoFault Nat × Sink :=
  if s.room = 0 then
    match s.whenFull with
    | .fails fault => (.error fault, s)
    | .takesNothing => (.ok 0, s)
  else (.ok (s.amount bytes.length), s.take bytes (s.amount bytes.length))

/-- Writes that are repeated until all bytes are taken, one fails, or one takes nothing, together
    with what each of them offered. -/
def writes (s : Sink) (bytes : List UInt8) :
    (Except IoFault Unit × Sink) × List (List UInt8) :=
  if bytes = [] then ((.ok (), s), [])
  else
    match s.write bytes with
    | (.error fault, s) => ((.error fault, s), [bytes])
    | (.ok 0, s) => ((.error .wroteNothing, s), [bytes])
    | (.ok (n + 1), s) =>
      ((s.writes (bytes.drop (n + 1))).1, bytes :: (s.writes (bytes.drop (n + 1))).2)
termination_by bytes.length
decreasing_by
  all_goals
    have hpos := List.length_pos_iff.mpr ‹bytes ≠ []›
    rw [List.length_drop]
    omega

variable {s : Sink} {bytes : List UInt8}

theorem amount_pos (s : Sink) (offered : Nat) : 0 < s.amount offered :=
  Nat.lt_of_lt_of_le Nat.one_pos (Nat.le_max_left ..)

/-- One write takes no more than it is offered, and no more than there is room for. -/
theorem amount_le {offered : Nat} (hoffered : 0 < offered) (hroom : 0 < s.room) :
    s.amount offered ≤ offered ∧ s.amount offered ≤ s.room := by
  rw [amount]
  omega

/-- The single writes change nothing of the writing. -/
theorem fst_writes (s : Sink) (bytes : List UInt8) : (s.writes bytes).1 = s.writeAll bytes := by
  fun_induction Sink.writeAll s bytes with
  | case1 s =>
      rw [writes, if_pos rfl]
  | case2 s bytes hne hroom =>
      rw [writes, if_neg hne, write, if_pos hroom, fault]
      cases s.whenFull with
      | fails fault => rfl
      | takesNothing => rfl
  | case3 s bytes hne hroom n ih =>
      obtain ⟨k, hk⟩ : ∃ k, s.amount bytes.length = k + 1 :=
        Nat.exists_eq_add_one.mpr (s.amount_pos bytes.length)
      rw [writes, if_neg hne, write, if_neg hroom]
      simp only [n, hk] at ih ⊢
      exact ih

/-- Without bytes there is no write. -/
theorem snd_writes_eq_nil_iff : (s.writes bytes).2 = [] ↔ bytes = [] := by
  by_cases hne : bytes = []
  · rw [writes, if_pos hne]
    exact iff_of_true rfl hne
  · refine iff_of_false (fun h => ?_) hne
    rw [writes, if_neg hne] at h
    split at h <;> cases h

-- ── Writing all bytes ────────────────────────────────────────────────────────────

/-- A sink that took as many of the bytes as there was room for. -/
def fill (s : Sink) (bytes : List UInt8) : Sink :=
  { s with room := s.room - bytes.length, taken := s.taken ++ bytes.take s.room }

theorem fill_nil (s : Sink) : s.fill [] = s := by
  show Sink.mk (s.room - 0) s.portion s.whenFull (s.taken ++ [].take s.room) = s
  rw [Nat.sub_zero, List.take_nil, List.append_nil]

theorem fill_of_full (h : s.room = 0) (bytes : List UInt8) : s.fill bytes = s := by
  show Sink.mk (s.room - bytes.length) s.portion s.whenFull (s.taken ++ bytes.take s.room) = s
  rw [h, Nat.zero_sub, List.take_zero, List.append_nil, ← h]

/-- Bytes that fit may be taken first, and the others afterwards. -/
theorem fill_take {n : Nat} (hoffered : n ≤ bytes.length) (hroom : n ≤ s.room) :
    (s.take bytes n).fill (bytes.drop n) = s.fill bytes := by
  obtain ⟨k, hk⟩ := Nat.exists_eq_add_of_le hroom
  show Sink.mk (s.room - n - (bytes.drop n).length) s.portion s.whenFull
      (s.taken ++ bytes.take n ++ (bytes.drop n).take (s.room - n))
    = Sink.mk (s.room - bytes.length) s.portion s.whenFull (s.taken ++ bytes.take s.room)
  rw [List.length_drop, Nat.sub_sub, Nat.add_sub_cancel' hoffered, List.append_assoc, hk,
    Nat.add_sub_cancel_left, ← List.take_add]

/-- What is written after other bytes is taken as if all were written together. -/
theorem fill_append (s : Sink) (bytes more : List UInt8) :
    (s.fill bytes).fill more = s.fill (bytes ++ more) := by
  show Sink.mk (s.room - bytes.length - more.length) s.portion s.whenFull
      (s.taken ++ bytes.take s.room ++ more.take (s.room - bytes.length))
    = Sink.mk (s.room - (bytes ++ more).length) s.portion s.whenFull
      (s.taken ++ (bytes ++ more).take s.room)
  rw [Nat.sub_sub, List.length_append, List.append_assoc, List.take_append]

/-- **Writing all bytes** takes as many of them as there is room for, and succeeds if these are
    all. -/
theorem writeAll_eq (s : Sink) (bytes : List UInt8) :
    s.writeAll bytes
      = (if bytes.length ≤ s.room then .ok () else .error s.fault, s.fill bytes) := by
  fun_induction Sink.writeAll s bytes with
  | case1 s => rw [fill_nil, if_pos (show ([] : List UInt8).length ≤ s.room from Nat.zero_le _)]
  | case2 s bytes hne hroom =>
      have hpos := List.length_pos_iff.mpr hne
      rw [fill_of_full hroom, if_neg (by omega)]
  | case3 s bytes hne hroom n ih =>
      obtain ⟨hoffered, hfits⟩ :=
        amount_le (s := s) (List.length_pos_iff.mpr hne) (Nat.pos_of_ne_zero hroom)
      rw [ih, fill_take hoffered hfits]
      have hiff : (bytes.drop n).length ≤ s.room - n ↔ bytes.length ≤ s.room := by
        rw [List.length_drop]
        omega
      show (if (bytes.drop n).length ≤ s.room - n then _ else _, _) = _
      simp only [hiff]
      rfl

-- ── Several outputs ──────────────────────────────────────────────────────────────

/-- Write several outputs one after the other, whatever becomes of each. -/
def writeEach (s : Sink) : List (List UInt8) → List (Except IoFault Unit) × Sink
  | [] => ([], s)
  | output :: outputs =>
    ((s.writeAll output).1 :: ((s.writeAll output).2.writeEach outputs).1,
      ((s.writeAll output).2.writeEach outputs).2)

/-- **Outputs share the room of a sink**: what is taken of them is what would be taken of one
    text. -/
theorem snd_writeEach (s : Sink) (outputs : List (List UInt8)) :
    (s.writeEach outputs).2 = s.fill outputs.flatten := by
  induction outputs generalizing s with
  | nil => exact (fill_nil s).symm
  | cons output outputs ih =>
      rw [writeEach, ih, writeAll_eq, fill_append, List.flatten_cons]

theorem length_writeEach (s : Sink) (outputs : List (List UInt8)) :
    (s.writeEach outputs).1.length = outputs.length := by
  induction outputs generalizing s with
  | nil => rfl
  | cons output outputs ih => rw [writeEach, List.length_cons, ih, List.length_cons]

theorem fst_writeEach_append (s : Sink) (before after : List (List UInt8)) :
    (s.writeEach (before ++ after)).1
      = (s.writeEach before).1 ++ ((s.writeEach before).2.writeEach after).1 := by
  induction before generalizing s with
  | nil => rfl
  | cons output before ih =>
      rw [List.cons_append, writeEach, writeEach, ih]
      rfl

/-- An output is written if all up to its end fits, or if there is nothing of it. -/
theorem getElem?_writeEach (s : Sink) (before after : List (List UInt8)) (output : List UInt8) :
    (s.writeEach (before ++ output :: after)).1[before.length]?
      = some (if output = [] ∨ (before ++ [output]).flatten.length ≤ s.room then .ok ()
          else .error s.fault) := by
  have hfits : output.length ≤ (s.fill before.flatten).room ↔
      output = [] ∨ (before ++ [output]).flatten.length ≤ s.room := by
    show output.length ≤ s.room - before.flatten.length ↔ _
    rw [List.flatten_append, List.flatten_singleton, List.length_append,
      ← List.length_eq_zero_iff]
    omega
  rw [fst_writeEach_append, List.getElem?_append_right (Nat.le_of_eq (length_writeEach s before)),
    length_writeEach, Nat.sub_self, snd_writeEach, writeEach, List.getElem?_cons_zero, writeAll_eq]
  simp only [hfits]
  rfl

end Sink

-- ── Renderings ───────────────────────────────────────────────────────────────────

namespace Template

variable {m : Type → Type} {ε φ : Type} [Monad m]

/-- Render a template in several contexts into one sink, one after the other. -/
def renderEach (t : Template m ε φ) : List Context → Sink → m (List (Except IoFault Unit) × Sink)
  | [], s => pure ([], s)
  | context :: contexts, s => do
    let (result, s) ← t.renderTo context s
    let (results, s) ← t.renderEach contexts s
    pure (result :: results, s)

variable [LawfulMonad m]

/-- Rendering into a sink is rendering, and then writing what was rendered. -/
theorem renderEach_eq (t : Template m ε φ) (contexts : List Context) (s : Sink) :
    t.renderEach contexts s
      = (fun outputs => s.writeEach (outputs.map Text.utf8)) <$> contexts.mapM t.render := by
  induction contexts generalizing s with
  | nil => simp [renderEach, Sink.writeEach]
  | cons context contexts ih =>
      rw [List.mapM_cons, renderEach, renderTo]
      simp only [ih, bind_assoc, pure_bind, map_eq_pure_bind]
      rfl

end Template

/-- **Nothing is lost or put in another order.**  Templates that are rendered one after the other
    into one sink write their texts, and whatever part of a write the sink takes, it holds as much
    of all texts together as there was room for.  A rendering succeeds if all up to its end fits,
    or if its text is empty, and it fails with the fault of the full sink otherwise.  An empty
    text makes no write at all, and so none that could fail. -/
theorem renderEach_writes {m : Type → Type} {ε φ : Type} [Monad m] [LawfulMonad m]
    (t : Template m ε φ) (contexts : List Context) (s : Sink) :
    t.renderEach contexts s
      = (fun outputs => s.writeEach (outputs.map Text.utf8)) <$> contexts.mapM t.render ∧
    (∀ outputs, (s.writeEach outputs).2.taken = s.taken ++ outputs.flatten.take s.room ∧
      (s.writeEach outputs).1.length = outputs.length) ∧
    (∀ before output after,
      (s.writeEach (before ++ output :: after)).1[before.length]?
        = some (if output = [] ∨ (before ++ [output]).flatten.length ≤ s.room then .ok ()
            else .error s.fault)) ∧
    ∀ (sink : Sink) bytes, (sink.writes bytes).1 = sink.writeAll bytes ∧
      ((sink.writes bytes).2 = [] ↔ bytes = []) := by
  refine ⟨t.renderEach_eq contexts s, fun outputs => ⟨?_, s.length_writeEach outputs⟩, ?_, ?_⟩
  · rw [s.snd_writeEach outputs]
    rfl
  · intro before output after
    exact s.getElem?_writeEach before after output
  · intro sink bytes
    exact ⟨sink.fst_writes bytes, Sink.snd_writes_eq_nil_iff⟩

/-- The last byte of the second text does not fit, and the third text is empty. -/
theorem renderEach_writes_torn :
    let t : PathTemplate := ⟨"$\x7b['x']\x7d".toList, .standard, Language.paths,
      [("['x']".toList, [.property "x".toList])]⟩
    let contexts : List Context :=
      [[("x".toList, .ofString "é")], [("x".toList, .ofString "é")], []]
    let s : Sink := ⟨3, fun _ _ => 1, .fails (.device "closed"), []⟩
    let run := Id.run (Template.renderEach t contexts s)
    run.2.taken = [0xC3, 0xA9, 0xC3] ∧ run.1[1]? = some (.error (.device "closed")) ∧
      run.1[2]? = some (.ok ()) := by
  intro t contexts s run
  obtain ⟨hrender, htaken, hresults, -⟩ := renderEach_writes (m := Id) t contexts s
  have houtputs : Id.run (contexts.mapM (Template.render t)) = [['é'], ['é'], []] := by cbv
  have hrun : run = s.writeEach [Text.utf8 ['é'], Text.utf8 ['é'], []] := by
    show Id.run (Template.renderEach t contexts s) = _
    rw [hrender]
    show s.writeEach ((Id.run (contexts.mapM (Template.render t))).map Text.utf8) = _
    rw [houtputs]
    rfl
  rw [hrun]
  refine ⟨?_, ?_, ?_⟩
  · rw [(htaken _).1]
    decide
  · have hlong : ¬ (Text.utf8 ['é'] = [] ∨
        ([Text.utf8 ['é']] ++ [Text.utf8 ['é']]).flatten.length ≤ 3) := by decide
    exact (hresults [Text.utf8 ['é']] (Text.utf8 ['é']) [[]]).trans (congrArg some (if_neg hlong))
  · exact (hresults [Text.utf8 ['é'], Text.utf8 ['é']] [] []).trans
      (congrArg some (if_pos (.inl rfl)))

end FaultPages
