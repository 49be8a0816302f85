import FaultPages.App.Dispatch
import FaultPages.Proofs.Http.Uri

/-! # Dispatching errors — what a forwarded reply can be

    A failed request leads to at most one other request (`forwarded?`), and
    `Forwards` says which.  The answer of a dispatcher is the reply of the
    handler, or what the page answers to that request under the status of the
    reply (`handle_eq`).  Nothing else is asked of the pages, so a page's own
    failure is never forwarded again. -/

namespace FaultPages.Dispatcher

open Http

variable {d : Dispatcher} {next : Handler} {request sent : Request} {reply : Reply}
  {page : ErrorPage}

-- ── What is forwarded ────────────────────────────────────────────────────────────

/-- The text that is read as the URI of a page. -/
def pageText (d : Dispatcher) (page : ErrorPage) (request : Request) : Text :=
  d.contextPath ++ page.path ++ Uri.queryText request.uri.query

/-- The request that a page sees of a failed one: the same method, the headers
    that do not describe a body, no body, the page below the context path with
    the query of the failed request, and what the reply says about the error
    with the status of the reply and the path of the failed request. -/
structure Forwards (d : Dispatcher) (page : ErrorPage) (request : Request) (reply : Reply)
    (sent : Request) : Prop where
  method : sent.method = request.method
  headers : sent.headers = request.headers.filter fun (name, _) =>
    name != "content-length".toList && name != "transfer-encoding".toList
  body : sent.body = []
  uri : Uri.parse? (d.pageText page request) = some sent.uri
  info : sent.info = some
    { reply.info.getD (ErrorInfo.unknown d.clock) with
      status := some reply.status
      path := some request.uri.path }

/-- The request that a failed request leads to, if there is one. -/
def forwarded? (d : Dispatcher) (request : Request) (reply : Reply) : Option Request :=
  if reply.isBareError then
    (d.pages.resolve? reply.status).bind fun page =>
      (d.pageUri? page request.uri).map fun uri =>
        forwarded request uri (d.infoOf request reply)
  else none

theorem pageUri?_eq : d.pageUri? page request.uri = Uri.parse? (d.pageText page request) := by
  rw [pageUri?, pageText]
  cases request.uri.query with
  | none => rfl
  | some query => rfl

/-- What is sent to a page is what the page is to see. -/
theorem forwards_forwarded {uri : Uri} (h : d.pageUri? page request.uri = some uri) :
    d.Forwards page request reply (forwarded request uri (d.infoOf request reply)) where
  method := rfl
  headers := by
    show (request.headers.filter _).filter _ = _
    rw [List.filter_filter]
    exact List.filter_congr fun _ _ => Bool.and_comm _ _
  body := rfl
  uri := pageUri?_eq.symm.trans h
  info := rfl

/-- Nothing of the request that a page sees is left open. -/
theorem Forwards.eq_forwarded (h : d.Forwards page request reply sent) :
    d.pageUri? page request.uri = some sent.uri ∧
      sent = forwarded request sent.uri (d.infoOf request reply) := by
  have huri : d.pageUri? page request.uri = some sent.uri := pageUri?_eq.trans h.uri
  have hsame : d.Forwards page request reply _ := forwards_forwarded huri
  refine ⟨huri, ?_⟩
  cases sent
  simp only [forwarded, Request.mk.injEq, true_and]
  exact ⟨h.method, h.headers.trans hsame.headers.symm, h.body, h.info⟩

/-- A request leads to another one if its reply is a bare error with a page whose
    URI can be read, and that is the request which the page sees. -/
theorem forwarded?_eq_some :
    d.forwarded? request reply = some sent ↔
      reply.isBareError = true ∧
        ∃ page, d.pages.resolve? reply.status = some page ∧
          d.Forwards page request reply sent := by
  rw [forwarded?]
  constructor
  · intro h
    split at h
    · rename_i hbare
      obtain ⟨page, hpage, hsent⟩ := Option.bind_eq_some_iff.mp h
      obtain ⟨uri, huri, rfl⟩ := Option.map_eq_some_iff.mp hsent
      exact ⟨hbare, page, hpage, forwards_forwarded huri⟩
    · cases h
  · rintro ⟨hbare, page, hpage, hsent⟩
    obtain ⟨huri, heq⟩ := hsent.eq_forwarded
    rw [if_pos hbare, hpage, Option.bind_some, huri, Option.map_some, ← heq]

-- ── What is answered ─────────────────────────────────────────────────────────────

/-- The answer of a dispatcher: the reply, or what the page answers under the
    status of the reply. -/
theorem handle_eq :
    d.handle next request
      = match d.forwarded? request (next request) with
        | none => next request
        | some sent =>
          if (d.inner sent).isBareError then next request
          else { d.inner sent with status := (next request).status } := by
  rw [forwarded?]
  cases hbare : (next request).isBareError with
  | false =>
      simp only [handle, hbare]
      rfl
  | true =>
      rw [if_pos rfl]
      simp only [handle, hbare, Bool.not_true, Bool.false_eq_true, if_false]
      cases d.pages.resolve? (next request).status with
      | none => rfl
      | some page =>
          simp only [forward?, Option.bind_some]
          cases d.pageUri? page request.uri with
          | none => rfl
          | some uri =>
              rw [Option.map_some]
              cases hsent : (d.inner (forwarded request uri
                (d.infoOf request (next request)))).isBareError with
              | false => simp only [hsent, Bool.false_eq_true, if_false]
              | true => simp only [hsent, if_true]

-- ── When the reply stays ─────────────────────────────────────────────────────────

/-- Why a reply is answered as it is. -/
inductive Stays (d : Dispatcher) (next : Handler) (request : Request) : Prop where
  | noError (h : (next request).status < 400 ∨ 599 < (next request).status)
  | hasBody (h : (next request).body.isEmpty = false)
  | noPage (h : d.pages.resolve? (next request).status = none)
  | noUri (page : ErrorPage) (hpage : d.pages.resolve? (next request).status = some page)
      (h : Uri.parse? (d.pageText page request) = none)
  | bareAnswer (page : ErrorPage) (hpage : d.pages.resolve? (next request).status = some page)
      (sent : Request) (hsent : d.Forwards page request (next request) sent)
      (h : (d.inner sent).isBareError = true)

/-- A reply that is no bare error has another status, or a body. -/
theorem isBareError_eq_false :
    reply.isBareError = false ↔
      (reply.status < 400 ∨ 599 < reply.status) ∨ reply.body.isEmpty = false := by
  have hstatus : Status.isError reply.status = false ↔
      reply.status < 400 ∨ 599 < reply.status := by
    rw [Status.isError, Bool.and_eq_false_iff, decide_eq_false_iff_not, decide_eq_false_iff_not,
      not_le, not_le]
  rw [Reply.isBareError, Bool.and_eq_false_iff, hstatus]

/-- A reply stays where it leads to no other request, and where the page is as
    bare as the reply. -/
theorem stays_iff :
    d.Stays next request ↔
      ∀ sent, d.forwarded? request (next request) = some sent →
        (d.inner sent).isBareError = true := by
  constructor
  · intro hstays sent hsent
    obtain ⟨hbare, page, hpage, hforwards⟩ := forwarded?_eq_some.mp hsent
    cases hstays with
    | noError h =>
        rw [isBareError_eq_false.mpr (.inl h)] at hbare
        cases hbare
    | hasBody h =>
        rw [isBareError_eq_false.mpr (.inr h)] at hbare
        cases hbare
    | noPage h =>
        rw [h] at hpage
        cases hpage
    | noUri page' hpage' h =>
        obtain rfl := Option.some.inj (hpage.symm.trans hpage')
        have huri := hforwards.uri
        rw [h] at huri
        cases huri
    | bareAnswer page' hpage' sent' hsent' h =>
        have hsame := forwarded?_eq_some.mpr ⟨hbare, page', hpage', hsent'⟩
        rw [Option.some.inj (hsent.symm.trans hsame)]
        exact h
  · intro h
    cases hbare : (next request).isBareError with
    | false =>
        rcases isBareError_eq_false.mp hbare with hstatus | hbody
        · exact .noError hstatus
        · exact .hasBody hbody
    | true =>
        cases hpage : d.pages.resolve? (next request).status with
        | none => exact .noPage hpage
        | some page =>
            cases huri : Uri.parse? (d.pageText page request) with
            | none => exact .noUri page hpage huri
            | some uri =>
                have hsent : d.Forwards page request (next request) _ :=
                  forwards_forwarded (pageUri?_eq.trans huri)
                exact .bareAnswer page hpage _ hsent
                  (h _ (forwarded?_eq_some.mpr ⟨hbare, page, hpage, hsent⟩))

/-- **What a dispatcher answers, for every reply, registry and page.**  The
    status is that of the reply.  The reply stays for one of the five reasons;
    for none of them, the answer is that of the page under the status of the
    reply.  A rooted page is asked at its own path with the query of the failed
    request.  Pages that agree on the one request that is forwarded give the same
    answer, whatever else they would answer. -/
theorem handle_dispatches (d : Dispatcher) (next : Handler) (request : Request) :
    let reply := next request
    let answer := d.handle next request
    answer.status = reply.status ∧
      (d.Stays next request → answer = reply) ∧
      (¬ d.Stays next request → ∃ page sent,
        d.pages.resolve? reply.status = some page ∧ d.Forwards page request reply sent ∧
          answer = { d.inner sent with status := reply.status }) ∧
      (∀ page sent, d.Forwards page request reply sent →
        (d.contextPath ++ page.path).head? = some '/' → '?' ∉ d.contextPath ++ page.path →
        '#' ∉ d.contextPath ++ page.path → (∀ query ∈ request.uri.query, '#' ∉ query) →
          sent.uri = ⟨none, none, d.contextPath ++ page.path, request.uri.query⟩) ∧
      (∀ other : Handler,
        (∀ sent, d.forwarded? request reply = some sent → other sent = d.inner sent) →
          { d with inner := other }.handle next request = answer) := by
  intro reply answer
  have hanswer : answer = _ := handle_eq
  refine ⟨?_, ?_, ?_, ?_, ?_⟩
  · rw [hanswer]
    cases d.forwarded? request (next request) with
    | none => rfl
    | some sent =>
        show (if _ then _ else _ : Reply).status = _
        split
        · rfl
        · rfl
  · intro hstays
    rw [hanswer]
    cases hsent : d.forwarded? request (next request) with
    | none => rfl
    | some sent => exact if_pos (stays_iff.mp hstays sent hsent)
  · intro hleaves
    rw [stays_iff] at hleaves
    obtain ⟨sent, hsent⟩ := not_forall.mp hleaves
    obtain ⟨hsent, hfull⟩ := Classical.not_imp.mp hsent
    obtain ⟨-, page, hpage, hforwards⟩ := forwarded?_eq_some.mp hsent
    refine ⟨page, sent, hpage, hforwards, ?_⟩
    rw [hanswer, hsent]
    exact if_neg hfull
  · intro page sent hforwards hroot hmark hsign hquery
    exact Uri.parse?_rooted hroot hmark hsign hquery hforwards.uri
  · intro other hagree
    have hsame : ({ d with inner := other } : Dispatcher).forwarded? request (next request)
        = d.forwarded? request (next request) := rfl
    rw [hanswer, handle_eq, hsame]
    cases hsent : d.forwarded? request (next request) with
    | none => rfl
    | some sent =>
        exact congrArg (fun answer : Reply =>
          if answer.isBareError then next request
          else { answer with status := (next request).status }) (hagree sent hsent)

theorem handle_dispatches_mounted :
    let d : Dispatcher := ⟨['/', 'a'], ⟨some ['/', 'e'], []⟩,
      fun request => if request.uri.path = ['/', 'a', '/', 'e'] then .plain 200 ['!'] else .bare 404,
      ⟨0, 0⟩⟩
    let request : Request := ⟨['G'], ⟨none, none, ['/'], some ['q']⟩, [], [], none⟩
    ¬ d.Stays d.inner request ∧
      d.handle d.inner request = { Reply.plain 200 ['!'] with status := 404 } := by
  intro d request
  have hsent : d.forwarded? request (d.inner request)
      = some (forwarded request ⟨none, none, ['/', 'a', '/', 'e'], some ['q']⟩
          (d.infoOf request (d.inner request))) := rfl
  have hleaves : ¬ d.Stays d.inner request := by
    rw [stays_iff]
    intro h
    exact absurd (h _ hsent) (by decide)
  obtain ⟨-, -, hanswer, hpath, -⟩ := handle_dispatches d d.inner request
  obtain ⟨page, sent, hpage, hforwards, heq⟩ := hanswer hleaves
  obtain rfl : ⟨none, ['/', 'e']⟩ = page := Option.some.inj hpage
  have huri := hpath _ _ hforwards rfl (by decide) (by decide) (by decide)
  have hfound : d.inner sent = .plain 200 ['!'] := if_pos (congrArg Uri.path huri)
  exact ⟨hleaves, heq.trans (by rw [hfound]; rfl)⟩

end FaultPages.Dispatcher
