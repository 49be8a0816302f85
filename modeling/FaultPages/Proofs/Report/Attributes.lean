import FaultPages.Report.Attributes

/-! # Error attributes — what the model says of an error

    The status and the path are in the model as they were given, and the message
    unless it is empty.  The exception and the trace are in it where they are asked
    for, and nothing else of it depends on them (`model_shown`).  No field is
    written over by another one. -/

namespace FaultPages

open Json

/-- What is known about an error, without the exception and the trace unless these
    are to be shown. -/
def ErrorInfo.shown (includeException includeTrace : Bool) (info : ErrorInfo) : ErrorInfo :=
  { info with
    exception := if includeException then info.exception else none
    trace := if includeTrace then info.trace else none }

namespace Attributes

variable (includeException includeTrace : Bool) (info : ErrorInfo)

/-- The model is made of what is shown. -/
theorem model_shown :
    model includeException includeTrace (info.shown includeException includeTrace)
      = model includeException includeTrace info := by
  simp only [model, ErrorInfo.shown, messageOf]
  cases includeException with
  | false =>
      cases includeTrace with
      | false => rfl
      | true => rfl
  | true =>
      cases includeTrace with
      | false => rfl
      | true => rfl

/-- An optional field leaves the others as they are. -/
theorem get?_optional {name : String} {value : Option Text} {model : Fields} {other : Text}
    (h : name.toList ≠ other) :
    Fields.get? other (optional name value model) = Fields.get? other model := by
  cases value with
  | none => rfl
  | some t => rw [optional, Fields.get?_insert, if_neg h]

theorem get?_status {status : Status} (h : info.status = some status) :
    Fields.get? "status".toList (model includeException includeTrace info)
      = some (.ofNat status) := by
  simp only [model]
  rw [get?_optional (by decide), get?_optional (by decide), Fields.get?_insert,
    if_neg (by decide), get?_optional (by decide), h]
  simp only [statusFields]
  rw [Fields.get?_insert, if_neg (by decide), Fields.get?_insert, if_pos rfl]

theorem get?_message : Fields.get? "message".toList (model includeException includeTrace info)
    = some (.string (messageOf info)) := by
  simp only [model]
  rw [get?_optional (by decide), get?_optional (by decide), Fields.get?_insert, if_pos rfl]

theorem get?_path {path : Text} (h : info.path = some path) :
    Fields.get? "path".toList (model includeException includeTrace info) = some (.string path) := by
  simp only [model]
  rw [h, optional, Fields.get?_insert, if_pos rfl]

/-- An optional field is found where it is known. -/
theorem get?_optional_self {name : String} {value : Option Text} {model : Fields}
    (h : Fields.get? name.toList model = none) :
    Fields.get? name.toList (optional name value model) = value.map .string := by
  cases value with
  | none => exact h
  | some t => rw [optional, Fields.get?_insert, if_pos rfl, Option.map_some]

theorem get?_exception :
    Fields.get? "exception".toList (model includeException includeTrace info)
      = (if includeException then info.exception else none).map .string := by
  simp only [model]
  rw [get?_optional (by decide), get?_optional (by decide), Fields.get?_insert,
    if_neg (by decide), get?_optional_self]
  simp only [statusFields]
  rw [Fields.get?_insert, if_neg (by decide), Fields.get?_insert, if_neg (by decide),
    Fields.get?_insert, if_neg (by decide)]
  rfl

theorem get?_trace :
    Fields.get? "trace".toList (model includeException includeTrace info)
      = (if includeTrace then info.trace else none).map .string := by
  simp only [model]
  rw [get?_optional (by decide), get?_optional_self]
  simp only [statusFields]
  rw [Fields.get?_insert, if_neg (by decide), get?_optional (by decide), Fields.get?_insert,
    if_neg (by decide), Fields.get?_insert, if_neg (by decide), Fields.get?_insert,
    if_neg (by decide)]
  rfl

/-- Under all other names, the model has what it would have without an exception, a trace and
    a path. -/
theorem get?_model {name : Text} (hexception : "exception".toList ≠ name)
    (htrace : "trace".toList ≠ name) (hpath : "path".toList ≠ name) :
    Fields.get? name (model includeException includeTrace info)
      = Fields.get? name (model false false { info with path := none }) := by
  simp only [model]
  rw [get?_optional hpath, get?_optional htrace, Fields.get?_insert, get?_optional hexception]
  exact (Fields.get?_insert ..).symm

/-- A model whose first field is the reason of a status. -/
def ReasonFirst (model : Fields) : Prop :=
  ∃ reason rest, model = ("error".toList, .string reason) :: rest

/-- A field that comes after the reason leaves that in its place. -/
theorem ReasonFirst.insert {model : Fields} (h : ReasonFirst model) {name : Text}
    (hlater : "error".toList ≠ name ∧ "error".toList < name) (v : Value) :
    ReasonFirst (Fields.insert name v model) := by
  obtain ⟨reason, rest, rfl⟩ := h
  refine ⟨reason, Fields.insert name v rest, ?_⟩
  rw [Fields.insert, if_neg hlater.1, if_pos hlater.2]

theorem ReasonFirst.optional {model : Fields} (h : ReasonFirst model) {name : String}
    (hlater : "error".toList ≠ name.toList ∧ "error".toList < name.toList) (value : Option Text) :
    ReasonFirst (optional name value model) := by
  cases value with
  | none => exact h
  | some t => exact h.insert hlater (.string t)

/-- A model begins with the reason of the status: no other field comes before it. -/
theorem reasonFirst_model : ReasonFirst (model includeException includeTrace info) := by
  have hstatus : ∀ v : Value, ReasonFirst (statusFields info.status
      (Fields.insert "timestamp".toList v [])) := by
    intro v
    cases info.status with
    | none => exact ⟨_, _, rfl⟩
    | some status => exact ⟨_, _, rfl⟩
  simp only [model]
  refine ReasonFirst.optional ?_ (by decide) _
  refine ReasonFirst.optional ?_ (by decide) _
  refine ReasonFirst.insert ?_ (by decide) _
  exact (hstatus _).optional (by decide) _

/-- An empty message counts as none. -/
theorem messageOf_eq : messageOf info = (info.message.filter (· ≠ [])).getD noMessage := by
  rw [messageOf]
  cases info.message with
  | none => rfl
  | some t =>
      by_cases ht : t = []
      · rw [ht]
        rfl
      · rw [Option.filter_some_pos (by simpa using ht)]
        exact if_neg ht

end Attributes

/-- A status of an error is the one to respond with. -/
theorem ErrorInfo.httpStatus_of_isError {info : ErrorInfo} {status : Status}
    (h : info.status = some status) (herror : Status.isError status = true) :
    info.httpStatus = status := by
  have hvalid : Status.isValid status = true := by
    obtain ⟨hlow, hhigh⟩ := Bool.and_eq_true_iff.mp herror
    exact Bool.and_eq_true_iff.mpr
      ⟨decide_eq_true (Nat.le_trans (by decide) (of_decide_eq_true hlow)),
        decide_eq_true (Nat.le_trans (of_decide_eq_true hhigh) (by decide))⟩
  rw [httpStatus, h]
  exact if_pos hvalid

end FaultPages
