import FaultPages.Proofs.Template.Dependence
import Mathlib

/-! # Steps — a response that is written step by step

    Views render into a response, texts are written to it, and its content type is chosen, in any
    order and with faults on the way.  A step sees to the content type and then adds its text, or
    it fails since no more writes are taken and leaves the body as it is: there is nothing else it
    can do (`take_cases`).  So one step keeps a content type that is chosen and adds its text or
    nothing, and a run, by induction on its steps, adds as many of their texts as the response
    still takes (`body_after`).

    What a view writes is rendered from the model with the path of the application in place of the
    model's own, so that one does not matter (`TemplateView.text_congr`). -/

namespace FaultPages

open Json

-- ── Limits ───────────────────────────────────────────────────────────────────────

namespace WriteLimit

/-- The texts that are taken under a limit, of those written one after the other. -/
def accepted (limit : Option WriteLimit) (texts : List Text) : List Text :=
  limit.elim texts fun limit => texts.take limit.left

/-- What is left of a limit after some writes. -/
def spent (limit : Option WriteLimit) (writes : Nat) : Option WriteLimit :=
  limit.map fun limit => ⟨limit.left - writes, limit.fault⟩

variable {limit : Option WriteLimit}

theorem accepted_nil (limit : Option WriteLimit) : accepted limit [] = [] := by
  cases limit with
  | none => rfl
  | some limit => exact List.take_nil

/-- A single text is taken unless nothing is left. -/
theorem accepted_singleton (h : ∀ fault, limit ≠ some ⟨0, fault⟩) (text : Text) :
    accepted limit [text] = [text] := by
  cases limit with
  | none => rfl
  | some limit =>
      obtain ⟨left, fault⟩ := limit
      cases left with
      | zero => exact absurd rfl (h fault)
      | succ left =>
          show text :: [].take left = _
          rw [List.take_nil]

/-- Later texts are taken under what the earlier ones left. -/
theorem accepted_append (limit : Option WriteLimit) (texts more : List Text) :
    accepted limit (texts ++ more) = accepted limit texts ++ accepted (spent limit texts.length) more := by
  cases limit with
  | none => rfl
  | some limit => exact List.take_append

theorem spent_zero (limit : Option WriteLimit) : spent limit 0 = limit := by
  cases limit with
  | none => rfl
  | some limit => rfl

theorem spent_add (limit : Option WriteLimit) (writes more : Nat) :
    spent limit (writes + more) = spent (spent limit writes) more := by
  cases limit with
  | none => rfl
  | some limit =>
      show some (WriteLimit.mk (limit.left - (writes + more)) limit.fault) = _
      rw [Nat.sub_add_eq]
      rfl

/-- Nothing is left after as many writes as the limit allows, or more. -/
theorem spent_eq_zero_iff {writes : Nat} {fault : IoFault} :
    spent limit writes = some ⟨0, fault⟩ ↔ ∃ left, limit = some ⟨left, fault⟩ ∧ left ≤ writes := by
  constructor
  · intro h
    obtain ⟨⟨left, cause⟩, rfl, hspent⟩ := Option.map_eq_some_iff.mp h
    obtain ⟨hleft, rfl⟩ := WriteLimit.mk.inj hspent
    exact ⟨left, rfl, Nat.sub_eq_zero_iff_le.mp hleft⟩
  · rintro ⟨left, rfl, hle⟩
    show some (WriteLimit.mk (left - writes) fault) = _
    rw [Nat.sub_eq_zero_of_le hle]

end WriteLimit

open WriteLimit

-- ── Responses ────────────────────────────────────────────────────────────────────

namespace Response

variable {r : Response}

/-- Where no content type is chosen, a view chooses its own; nothing else changes. -/
theorem defaultContentType_eq (r : Response) (contentType : Text) :
    r.defaultContentType contentType
      = { r with contentType := some (r.contentType.getD contentType) } := by
  obtain ⟨chosen, body, limit⟩ := r
  cases chosen with
  | none => rfl
  | some chosen => rfl

/-- A write that is no longer taken fails and leaves the response as it is. -/
theorem write_of_full {fault : IoFault} (h : r.limit = some ⟨0, fault⟩) (t : Text) :
    r.write t = (.error fault, r) := by
  rw [write, h]

/-- Any other write adds the text. -/
theorem write_of_open (h : ∀ fault, r.limit ≠ some ⟨0, fault⟩) (t : Text) :
    r.write t = (.ok (), { r with body := r.body ++ t, limit := spent r.limit 1 }) := by
  obtain ⟨contentType, body, limit⟩ := r
  cases limit with
  | none => rfl
  | some limit =>
      obtain ⟨left, fault⟩ := limit
      cases left with
      | zero => exact absurd rfl (h fault)
      | succ left => rfl

end Response

/-- A view does not read the path of the model. -/
theorem TemplateView.text_congr {v : TemplateView} (hlanguage : v.template.language = Language.paths)
    {a b : Fields} (h : ∀ name, name ≠ "path".toList → Fields.get? name a = Fields.get? name b)
    (contextPath : Text) : v.text a contextPath = v.text b contextPath := by
  refine PathTemplate.render_ext hlanguage fun name => ?_
  rw [Fields.get?_insert, Fields.get?_insert]
  by_cases hpath : "path".toList = name
  · rw [if_pos hpath, if_pos hpath]
  · rw [if_neg hpath, if_neg hpath]
    exact h name (Ne.symm hpath)

-- ── One step ─────────────────────────────────────────────────────────────────────

/-- A step of writing a response. -/
inductive ResponseStep where
  | render (model : Fields) (contextPath : Text)
  | write (text : Text)
  | setContentType (contentType : Text)

namespace ResponseStep

variable (v : TemplateView)

/-- The text that a step writes, if any. -/
def text? : ResponseStep → Option Text
  | .render model contextPath => some (v.text model contextPath)
  | .write text => some text
  | .setContentType _ => none

/-- The content type after a step, whether or not it fails. -/
def contentType (r : Response) : ResponseStep → Option Text
  | .render _ _ => some (r.contentType.getD textHtml)
  | .write _ => r.contentType
  | .setContentType contentType => some contentType

/-- A response with the content type that a step gives it. -/
def dressed (r : Response) (step : ResponseStep) : Response :=
  { r with contentType := step.contentType r }

/-- A step, with its outcome and the response after it. -/
def take (r : Response) : ResponseStep → Except Fault Unit × Response
  | .render model contextPath => v.render model contextPath r
  | .write text => ((r.write text).1.mapError .io, (r.write text).2)
  | .setContentType contentType => (.ok (), r.setContentType contentType)

variable {v} {r : Response} {step : ResponseStep}

/-- A step that has a text sees to the content type and writes the text. -/
theorem take_of_text {text : Text} (h : step.text? v = some text) :
    step.take v r
      = (((step.dressed r).write text).1.mapError .io, ((step.dressed r).write text).2) := by
  cases step with
  | render model contextPath =>
      cases h
      rw [dressed, contentType, ← Response.defaultContentType_eq]
      rfl
  | write t =>
      cases h
      rfl
  | setContentType contentType => cases h

/-- **All that a step can do.**  It adds its text, if it has one.  Or the response takes no more
    writes; then the step fails with the fault of that, and the body stays as it is. -/
theorem take_cases (v : TemplateView) (r : Response) (step : ResponseStep) :
    step.take v r = (.ok (), ⟨step.contentType r, r.body ++ (step.text? v).getD [],
      spent r.limit (step.text? v).toList.length⟩) ∧
        (∀ fault, (step.text? v).isSome = true → r.limit ≠ some ⟨0, fault⟩) ∨
      ∃ fault, (step.text? v).isSome = true ∧ r.limit = some ⟨0, fault⟩ ∧
        step.take v r = (.error (.io fault), step.dressed r) := by
  cases htext : step.text? v with
  | none =>
      left
      cases step with
      | render model contextPath => cases htext
      | write text => cases htext
      | setContentType contentType =>
          refine ⟨?_, fun fault hsome => absurd hsome Bool.false_ne_true⟩
          rw [Option.getD_none, List.append_nil, Option.toList_none, List.length_nil, spent_zero]
          rfl
  | some text =>
      by_cases hfull : ∃ fault, r.limit = some ⟨0, fault⟩
      · right
        obtain ⟨fault, hlimit⟩ := hfull
        refine ⟨fault, rfl, hlimit, ?_⟩
        rw [take_of_text htext, Response.write_of_full (r := step.dressed r) hlimit]
        rfl
      · left
        have hopen : ∀ fault, r.limit ≠ some ⟨0, fault⟩ :=
          fun fault hlimit => hfull ⟨fault, hlimit⟩
        refine ⟨?_, fun fault _ => hopen fault⟩
        rw [take_of_text htext, Response.write_of_open (r := step.dressed r) hopen]
        rfl

/-- A step that fails has a text, and the response takes no more writes. -/
theorem take_eq_error_iff {fault : Fault} :
    (step.take v r).1 = .error fault ↔
      ∃ cause, fault = .io cause ∧ (step.text? v).isSome = true ∧ r.limit = some ⟨0, cause⟩ := by
  rcases take_cases v r step with ⟨htake, hopen⟩ | ⟨cause, htext, hlimit, htake⟩
  · rw [htake]
    constructor
    · intro h
      cases h
    · rintro ⟨cause, -, htext, hlimit⟩
      exact absurd hlimit (hopen cause htext)
  · rw [htake]
    constructor
    · intro h
      cases h
      exact ⟨cause, rfl, htext, hlimit⟩
    · rintro ⟨other, rfl, -, hother⟩
      rw [hlimit] at hother
      cases hother
      rfl

theorem body_of_ok (h : (step.take v r).1 = .ok ()) :
    (step.take v r).2.body = r.body ++ (step.text? v).getD [] := by
  rcases take_cases v r step with ⟨htake, -⟩ | ⟨cause, -, -, htake⟩
  · rw [htake]
  · rw [htake] at h
    cases h

theorem body_of_error {fault : Fault} (h : (step.take v r).1 = .error fault) :
    (step.take v r).2.body = r.body := by
  rcases take_cases v r step with ⟨htake, -⟩ | ⟨cause, -, -, htake⟩
  · rw [htake] at h
    cases h
  · rw [htake]
    rfl

/-- The content type is the same whether or not the step fails. -/
theorem contentType_take : (step.take v r).2.contentType = step.contentType r := by
  rcases take_cases v r step with ⟨htake, -⟩ | ⟨cause, -, -, htake⟩
  · rw [htake]
  · rw [htake]
    rfl

theorem limit_take :
    (step.take v r).2.limit = spent r.limit (step.text? v).toList.length := by
  rcases take_cases v r step with ⟨htake, -⟩ | ⟨cause, -, hlimit, htake⟩
  · rw [htake]
  · rw [htake, hlimit]
    show r.limit = some (WriteLimit.mk (0 - _) cause)
    rw [Nat.zero_sub, hlimit]

/-- The body grows by the text, if that is still taken. -/
theorem body_take :
    (step.take v r).2.body = r.body ++ (accepted r.limit (step.text? v).toList).flatten := by
  rcases take_cases v r step with ⟨htake, hopen⟩ | ⟨cause, -, hlimit, htake⟩
  · rw [htake]
    show r.body ++ _ = _
    cases htext : step.text? v with
    | none => rw [Option.toList_none, accepted_nil, List.flatten_nil, Option.getD_none]
    | some text =>
        have hopen : ∀ fault, r.limit ≠ some ⟨0, fault⟩ :=
          fun fault => hopen fault (by rw [htext]; rfl)
        rw [Option.toList_some, accepted_singleton hopen, List.flatten_singleton, Option.getD_some]
  · rw [htake, hlimit]
    exact (List.append_nil r.body).symm

end ResponseStep

-- ── Runs ─────────────────────────────────────────────────────────────────────────

/-- The texts that some steps write. -/
def ResponseStep.texts (v : TemplateView) (steps : List ResponseStep) : List Text :=
  steps.filterMap (ResponseStep.text? v)

namespace Response

open ResponseStep

variable {v : TemplateView}

/-- A response after some steps, which go on after one that fails. -/
def after (v : TemplateView) (r : Response) (steps : List ResponseStep) : Response :=
  steps.foldl (fun r step => (step.take v r).2) r

theorem after_concat (r : Response) (before : List ResponseStep) (step : ResponseStep) :
    r.after v (before ++ [step]) = (step.take v (r.after v before)).2 :=
  List.foldl_concat ..

theorem texts_cons (step : ResponseStep) (steps : List ResponseStep) :
    texts v (step :: steps) = (step.text? v).toList ++ texts v steps := by
  rw [texts, List.filterMap_cons]
  cases step.text? v with
  | none => rfl
  | some text => rfl

theorem limit_after (r : Response) (steps : List ResponseStep) :
    (r.after v steps).limit = spent r.limit (texts v steps).length := by
  induction steps generalizing r with
  | nil => exact (spent_zero r.limit).symm
  | cons step steps ih =>
      show ((step.take v r).2.after v steps).limit = _
      rw [ih, limit_take, texts_cons, List.length_append, spent_add]

/-- **A run adds the texts of its steps**, in order and as many as are still taken. -/
theorem body_after (r : Response) (steps : List ResponseStep) :
    (r.after v steps).body = r.body ++ (accepted r.limit (texts v steps)).flatten := by
  induction steps generalizing r with
  | nil =>
      show r.body = r.body ++ (accepted r.limit []).flatten
      rw [accepted_nil, List.flatten_nil, List.append_nil]
  | cons step steps ih =>
      show ((step.take v r).2.after v steps).body = _
      rw [ih, body_take, limit_take, texts_cons, accepted_append, List.flatten_append,
        List.append_assoc]

/-- A content type that is chosen stays unless a step chooses another. -/
theorem contentType_after {r : Response} {chosen : Text} (h : r.contentType = some chosen)
    {steps : List ResponseStep} (hkept : ∀ other, .setContentType other ∉ steps) :
    (r.after v steps).contentType = some chosen := by
  induction steps generalizing r with
  | nil => exact h
  | cons step steps ih =>
      refine ih ?_ fun other hmem => hkept other (List.mem_cons_of_mem _ hmem)
      rw [contentType_take]
      cases step with
      | render model contextPath => exact congrArg (fun c => some (c.getD textHtml)) h
      | write text => exact h
      | setContentType other => exact absurd List.mem_cons_self (hkept other)

/-- **A response only grows, and keeps its content type.**  Each step adds its text, unless the
    response takes no more writes: then it fails with the fault of that and adds nothing.  A
    content type that is chosen is changed by choosing another alone, and a view leaves one behind
    even where it fails.  What a view writes is rendered from the model with the path of the
    application, so two models that differ in their paths alone give the same text. -/
theorem after_appends {d : Delimiters} {source : Text} {t : PathTemplate}
    (hcompile : PathTemplate.compileWith d source = .ok t) (r : Response)
    (steps : List ResponseStep) :
    let v : TemplateView := ⟨t⟩
    (∀ before step later, steps = before ++ step :: later →
      let earlier := r.after v before
      let outcome := step.take v earlier
      r.after v (before ++ [step]) = outcome.2 ∧
        (outcome.1 = .ok () → outcome.2.body = earlier.body ++ (step.text? v).getD []) ∧
        (∀ fault, outcome.1 = .error fault → outcome.2.body = earlier.body) ∧
        (∀ fault, outcome.1 = .error fault ↔ ∃ cause left, fault = .io cause ∧
          (step.text? v).isSome = true ∧ r.limit = some ⟨left, cause⟩ ∧
          left ≤ (texts v before).length) ∧
        (∀ chosen, earlier.contentType = some chosen → outcome.2.contentType ≠ some chosen →
          ∃ other, step = .setContentType other) ∧
        (∀ other, step = .setContentType other → outcome.2.contentType = some other) ∧
        ∀ model contextPath, step = .render model contextPath →
          outcome.2.contentType = some (earlier.contentType.getD textHtml)) ∧
    (r.after v steps).body = r.body ++ (accepted r.limit (texts v steps)).flatten ∧
    (∀ chosen, r.contentType = some chosen → (∀ other, .setContentType other ∉ steps) →
      (r.after v steps).contentType = some chosen) ∧
    (∀ model contextPath, (ResponseStep.render model contextPath).text? v
      = some (t.render (Fields.insert "path".toList (.string contextPath) model))) ∧
    ∀ a b contextPath, (∀ name, name ≠ "path".toList → Fields.get? name a = Fields.get? name b) →
      (ResponseStep.render a contextPath).text? v = (ResponseStep.render b contextPath).text? v := by
  intro v
  refine ⟨?_, body_after r steps, ?_, fun _ _ => rfl, ?_⟩
  · rintro before step later - earlier outcome
    have htype : outcome.2.contentType = step.contentType earlier := contentType_take
    refine ⟨after_concat r before step, body_of_ok, fun fault => body_of_error, ?_, ?_, ?_, ?_⟩
    · intro fault
      show (step.take v earlier).1 = .error fault ↔ _
      rw [take_eq_error_iff, limit_after]
      constructor
      · rintro ⟨cause, hfault, htext, hspent⟩
        obtain ⟨left, hlimit, hleft⟩ := spent_eq_zero_iff.mp hspent
        exact ⟨cause, left, hfault, htext, hlimit, hleft⟩
      · rintro ⟨cause, left, hfault, htext, hlimit, hleft⟩
        exact ⟨cause, hfault, htext, spent_eq_zero_iff.mpr ⟨left, hlimit, hleft⟩⟩
    · intro chosen hchosen hchanged
      rw [htype] at hchanged
      cases step with
      | render model contextPath =>
          refine absurd ?_ hchanged
          rw [ResponseStep.contentType, hchosen, Option.getD_some]
      | write text => exact absurd hchosen hchanged
      | setContentType other => exact ⟨other, rfl⟩
    · intro other hstep
      rw [htype, hstep, ResponseStep.contentType]
    · intro model contextPath hstep
      rw [htype, hstep, ResponseStep.contentType]
  · intro chosen h hkept
    exact contentType_after h hkept
  · intro a b contextPath h
    exact congrArg some
      (TemplateView.text_congr (PathTemplate.language_of_compileWith hcompile) h contextPath)

/-- A template that shows the path of the application. -/
def homeLink : Text := "<$\x7b['path']\x7d>".toList

/-- Two writes are taken, and the third fails. -/
theorem after_appends_limited :
    ∃ t, PathTemplate.compileWith .standard homeLink = .ok t ∧
      let view : ResponseStep := .render [] ['/', 'a']
      let r : Response := ⟨none, ['('], some ⟨2, .device "closed"⟩⟩
      let earlier := r.after ⟨t⟩ [view, .setContentType ['x'], .write [')']]
      let outcome := view.take ⟨t⟩ earlier
      earlier.body = "(</a>)".toList ∧ outcome.1 = .error (.io (.device "closed")) ∧
        outcome.2.body = "(</a>)".toList ∧
        ∃ chosen, outcome.2.contentType = some chosen := by
  have hcompile : PathTemplate.compileWith .standard homeLink
      = .ok ⟨homeLink, .standard, Language.paths, [("['path']".toList, [.property "path".toList])]⟩ := by
    cbv
  refine ⟨_, hcompile, ?_⟩
  intro view r earlier outcome
  obtain ⟨-, hbody, -⟩ := after_appends hcompile r [view, .setContentType ['x'], .write [')']]
  obtain ⟨hsteps, -⟩ := after_appends hcompile r [view, .setContentType ['x'], .write [')'], view]
  obtain ⟨-, -, hstays, hfails, -, -, hrender⟩ :=
    hsteps [view, .setContentType ['x'], .write [')']] view [] rfl
  have hearlier : earlier.body = "(</a>)".toList := by
    refine hbody.trans ?_
    cbv
  have hfailed : outcome.1 = .error (.io (.device "closed")) :=
    (hfails _).mpr ⟨_, 2, rfl, rfl, rfl, by decide⟩
  exact ⟨hearlier, hfailed, (hstays _ hfailed).trans hearlier, _, hrender _ _ rfl⟩

end Response

end FaultPages
