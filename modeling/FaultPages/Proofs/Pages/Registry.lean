import FaultPages.Pages.Registry
import Mathlib.Data.List.Dedup
import Mathlib.Data.List.Sort

/-! # Registry — the last page of its kind answers

    A registry keeps of all pages that were added the last one of each status and the
    last global one (`Reflects`), which one added page preserves (`Reflects.add`) and so
    all of them do (`Reflects.addAll`).  What it answers can be read off that
    (`Reflects.answers`).

    Registrars run one after the other, so their registry is that of all their pages in
    the order of running.  There is only one list of them in ascending order that keeps
    those of equal order as they are listed (`InOrder.eq`), so the order of listing does
    not matter where no two orders are equal. -/

namespace FaultPages

-- ── Pages ────────────────────────────────────────────────────────────────────────

namespace ErrorPages

/-- The last page for a status. -/
def lastFor? (status : Status) (added : List ErrorPage) : Option ErrorPage :=
  (added.filter (·.status = some status)).getLast?

/-- The last page for all statuses. -/
def lastGlobal? (added : List ErrorPage) : Option ErrorPage :=
  (added.filter ErrorPage.isGlobal).getLast?

/-- The statuses that have a page of their own, each where it comes first. -/
def statuses (added : List ErrorPage) : List Status :=
  (added.filterMap ErrorPage.status).eraseDups

/-- What is kept of the pages that were added. -/
structure Reflects (pages : ErrorPages) (added : List ErrorPage) : Prop where
  global : pages.global = (lastGlobal? added).map ErrorPage.path
  lookup : ∀ status, pages.byStatus.lookup status = (lastFor? status added).map ErrorPage.path
  keys : pages.byStatus.map Prod.fst = statuses added

/-- How a registry answers after pages were added: the last page of a status wins, and
    the last global page stands for every status without one. -/
structure Answers (pages : ErrorPages) (added : List ErrorPage) : Prop where
  resolve : ∀ status, pages.resolve? status = (lastFor? status added <|> lastGlobal? added)
  global : pages.globalPage? = lastGlobal? added
  size : pages.size = (statuses added).length + if added.any ErrorPage.isGlobal then 1 else 0

variable {pages : ErrorPages} {added : List ErrorPage}

-- ── One page ─────────────────────────────────────────────────────────────────────

theorem lookup_put (status other : Status) (path : Text) (entries : List (Status × Text)) :
    (put status path entries).lookup other
      = if status = other then some path else entries.lookup other := by
  induction entries with
  | nil =>
      rw [put, List.lookup_cons]
      by_cases h : status = other
      · rw [if_pos h, beq_iff_eq.mpr h.symm]
      · rw [if_neg h, beq_eq_false_iff_ne.mpr (Ne.symm h)]
  | cons entry rest ih =>
      obtain ⟨s, p⟩ := entry
      rw [put]
      by_cases hs : s = status
      · subst hs
        rw [if_pos rfl, List.lookup_cons, List.lookup_cons]
        by_cases h : s = other
        · rw [if_pos h, beq_iff_eq.mpr h.symm]
        · rw [if_neg h, beq_eq_false_iff_ne.mpr (Ne.symm h)]
      · rw [if_neg hs, List.lookup_cons, List.lookup_cons, ih]
        by_cases h : other = s
        · rw [beq_iff_eq.mpr h]
          exact (if_neg fun heq => hs (heq.trans h).symm).symm
        · rw [beq_eq_false_iff_ne.mpr h]

/-- A status keeps its place, and a new one comes last. -/
theorem map_fst_put (status : Status) (path : Text) (entries : List (Status × Text)) :
    (put status path entries).map Prod.fst
      = if status ∈ entries.map Prod.fst then entries.map Prod.fst
        else entries.map Prod.fst ++ [status] := by
  induction entries with
  | nil => rfl
  | cons entry rest ih =>
      obtain ⟨s, p⟩ := entry
      rw [put]
      by_cases hs : s = status
      · subst hs
        rw [if_pos rfl, List.map_cons, List.map_cons, if_pos List.mem_cons_self]
      · have hmem : status ∈ s :: rest.map Prod.fst ↔ status ∈ rest.map Prod.fst := by
          rw [List.mem_cons, or_iff_right (Ne.symm hs)]
        rw [if_neg hs, List.map_cons, ih, List.map_cons, if_congr hmem rfl rfl]
        split
        · rfl
        · rfl

/-- A last status is counted unless it was there before. -/
theorem eraseDups_concat (statuses : List Status) (status : Status) :
    (statuses ++ [status]).eraseDups
      = if status ∈ statuses.eraseDups then statuses.eraseDups
        else statuses.eraseDups ++ [status] := by
  rw [List.eraseDups_append, if_congr List.mem_eraseDups rfl rfl]
  by_cases h : status ∈ statuses
  · simp [h, List.removeAll]
  · simp [h, List.removeAll, List.eraseDups_cons]

/-- **One page more** is the last of its kind, and leaves the others as they are. -/
theorem Reflects.add (h : pages.Reflects added) (page : ErrorPage) :
    (pages.add page).Reflects (added ++ [page]) := by
  obtain ⟨status, path⟩ := page
  cases status with
  | none =>
      refine ⟨?_, fun status => ?_, ?_⟩
      · simp [ErrorPages.add, lastGlobal?, ErrorPage.isGlobal]
      · simp [ErrorPages.add, lastFor?, h.lookup]
      · simp [ErrorPages.add, statuses, h.keys]
  | some status =>
      refine ⟨?_, fun other => ?_, ?_⟩
      · simp [ErrorPages.add, lastGlobal?, ErrorPage.isGlobal, h.global]
      · show (put status path pages.byStatus).lookup other = _
        rw [lookup_put, h.lookup]
        by_cases hs : status = other
        · simp [hs, lastFor?]
        · simp [hs, lastFor?]
      · show (put status path pages.byStatus).map Prod.fst = _
        rw [map_fst_put, h.keys, statuses, statuses, List.filterMap_append]
        exact (eraseDups_concat _ status).symm

-- ── All pages ────────────────────────────────────────────────────────────────────

theorem reflects_empty : empty.Reflects [] where
  global := rfl
  lookup _ := rfl
  keys := rfl

/-- **Any number of pages more.** -/
theorem Reflects.addAll (h : pages.Reflects added) (more : List ErrorPage) :
    (pages.addAll more).Reflects (added ++ more) := by
  induction more generalizing pages added with
  | nil =>
      rw [List.append_nil]
      exact h
  | cons page more ih =>
      have hnext := ih (h.add page)
      rw [List.append_assoc] at hnext
      exact hnext

/-- Pages in several batches are the pages in one. -/
theorem addAll_flatten (pages : ErrorPages) (batches : List (List ErrorPage)) :
    batches.foldl ErrorPages.addAll pages = pages.addAll batches.flatten := by
  rw [ErrorPages.addAll, List.foldl_flatten]
  rfl

theorem status_of_lastFor? {status : Status} {page : ErrorPage}
    (h : lastFor? status added = some page) : page.status = some status :=
  of_decide_eq_true (List.mem_filter.mp (List.mem_of_getLast? h)).2

theorem status_of_lastGlobal? {page : ErrorPage} (h : lastGlobal? added = some page) :
    page.status = none :=
  Option.isNone_iff_eq_none.mp (List.mem_filter.mp (List.mem_of_getLast? h)).2

/-- What is kept is what is answered. -/
theorem Reflects.answers (h : pages.Reflects added) : pages.Answers added := by
  have hglobal : pages.globalPage? = lastGlobal? added := by
    rw [globalPage?, h.global, Option.map_map]
    cases hlast : lastGlobal? added with
    | none => rfl
    | some page =>
        obtain ⟨status, path⟩ := page
        obtain rfl : status = none := status_of_lastGlobal? hlast
        rfl
  refine ⟨fun status => ?_, hglobal, ?_⟩
  · rw [resolve?, h.lookup, hglobal]
    cases hlast : lastFor? status added with
    | none => rfl
    | some page =>
        obtain ⟨own, path⟩ := page
        obtain rfl : own = some status := status_of_lastFor? hlast
        rfl
  · have hany : pages.global.isSome = added.any ErrorPage.isGlobal := by
      rw [h.global, Option.isSome_map, lastGlobal?, Bool.eq_iff_iff]
      simp
    rw [size, hany, ← h.keys, List.length_map]

end ErrorPages

-- ── Registrars ───────────────────────────────────────────────────────────────────

namespace Registrar

/-- A list in ascending order that keeps what is of equal order as it was listed. -/
structure InOrder {α : Type} (order : α → Int) (listed sorted : List α) : Prop where
  perm : sorted.Perm listed
  ascending : sorted.Pairwise fun a b => order a ≤ order b
  stable : ∀ k, sorted.filter (order · = k) = listed.filter (order · = k)

variable {α : Type} {order : α → Int} {listed sorted other : List α}

private theorem le_trans_order (order : α → Int) (a b c : α)
    (hab : decide (order a ≤ order b) = true) (hbc : decide (order b ≤ order c) = true) :
    decide (order a ≤ order c) = true :=
  decide_eq_true (Int.le_trans (of_decide_eq_true hab) (of_decide_eq_true hbc))

private theorem le_total_order (order : α → Int) (a b : α) :
    (decide (order a ≤ order b) || decide (order b ≤ order a)) = true := by
  rw [Bool.or_eq_true, decide_eq_true_iff, decide_eq_true_iff]
  exact Int.le_total (order a) (order b)

/-- Registrars run in order. -/
theorem inOrder_inOrder (order : α → Int) (listed : List α) :
    InOrder order listed (inOrder order listed) := by
  have hperm : (inOrder order listed).Perm listed := List.mergeSort_perm _ _
  refine ⟨hperm, ?_, fun k => ?_⟩
  · exact (List.pairwise_mergeSort (le_trans_order order) (le_total_order order) listed).imp
      of_decide_eq_true
  · -- those of one order are in order already, so sorting keeps them as they are
    have hkept : (listed.filter (order · = k)).Sublist (inOrder order listed) := by
      refine List.sublist_mergeSort (le_trans_order order) (le_total_order order) ?_
        List.filter_sublist
      refine List.pairwise_of_forall_mem_list fun a ha b hb => decide_eq_true ?_
      rw [of_decide_eq_true (List.mem_filter.mp ha).2, of_decide_eq_true (List.mem_filter.mp hb).2]
    have hfilter := hkept.filter (order · = k)
    rw [List.filter_filter] at hfilter
    simp only [Bool.and_self] at hfilter
    exact (hfilter.eq_of_length (hperm.filter _).length_eq.symm).symm

/-- Two lists in order begin with the same. -/
theorem InOrder.eq_head {a b : α} {s t : List α} (hs : InOrder order listed (a :: s))
    (ht : InOrder order listed (b :: t)) : a = b := by
  have hle : ∀ {a b : α} {s t : List α}, InOrder order listed (a :: s) →
      InOrder order listed (b :: t) → order a ≤ order b := by
    intro a b s t hs ht
    rcases List.mem_cons.mp ((ht.perm.trans hs.perm.symm).mem_iff.mp List.mem_cons_self)
      with rfl | hmem
    · exact Int.le_refl _
    · exact (List.pairwise_cons.mp hs.ascending).1 b hmem
  have heq : order a = order b := Int.le_antisymm (hle hs ht) (hle ht hs)
  have hfirst := (hs.stable (order a)).trans (ht.stable (order a)).symm
  rw [List.filter_cons_of_pos (by simp), List.filter_cons_of_pos (by simp [heq])] at hfirst
  exact (List.cons.inj hfirst).1

/-- There is one such list only. -/
theorem InOrder.eq (hsorted : InOrder order listed sorted) (hother : InOrder order listed other) :
    sorted = other := by
  induction sorted generalizing listed other with
  | nil => exact (hother.perm.trans hsorted.perm.symm).eq_nil.symm
  | cons a s ih =>
      cases other with
      | nil => exact (hsorted.perm.trans hother.perm.symm).eq_nil
      | cons b t =>
          obtain rfl := hsorted.eq_head hother
          -- the rest of both is in the order of the first one's rest
          have hrest : ∀ k, t.filter (order · = k) = s.filter (order · = k) := by
            intro k
            have hall := (hother.stable k).trans (hsorted.stable k).symm
            by_cases hk : order a = k
            · rw [List.filter_cons_of_pos (by simp [hk]),
                List.filter_cons_of_pos (by simp [hk])] at hall
              exact (List.cons.inj hall).2
            · rwa [List.filter_cons_of_neg (by simp [hk]),
                List.filter_cons_of_neg (by simp [hk])] at hall
          have hs : InOrder order s s :=
            ⟨.refl s, (List.pairwise_cons.mp hsorted.ascending).2, fun _ => rfl⟩
          have ht : InOrder order s t :=
            ⟨(hother.perm.trans hsorted.perm.symm).cons_inv,
              (List.pairwise_cons.mp hother.ascending).2, hrest⟩
          rw [ih hs ht]

/-- Where no two orders are equal, the order of listing does not matter. -/
theorem inOrder_perm (hperm : other.Perm listed) (hnodup : (listed.map order).Nodup) :
    inOrder order other = inOrder order listed := by
  have hfirst := inOrder_inOrder order other
  have hsecond := inOrder_inOrder order listed
  refine List.Perm.eq_of_pairwise (fun a b ha hb hab hba => ?_) hfirst.ascending
    hsecond.ascending (hfirst.perm.trans (hperm.trans hsecond.perm.symm))
  exact List.inj_on_of_nodup_map hnodup ((hfirst.perm.trans hperm).mem_iff.mp ha)
    (hsecond.perm.mem_iff.mp hb) (Int.le_antisymm hab hba)

end Registrar

-- ── The pages of registrars ──────────────────────────────────────────────────────

namespace ErrorPages

/-- Registrars contribute their pages one after the other. -/
theorem reflects_ofRegistrars (registrars : List Registrar) :
    (ofRegistrars registrars).Reflects
      ((Registrar.inOrder Registrar.order registrars).flatMap Registrar.pages) := by
  have hpages : ofRegistrars registrars = empty.addAll
      ((Registrar.inOrder Registrar.order registrars).flatMap Registrar.pages) := by
    rw [List.flatMap_def, ← addAll_flatten, List.foldl_map]
    rfl
  rw [hpages]
  exact reflects_empty.addAll _

/-- **The page that was registered last answers.**  Registrars run in the one order that is
    ascending and otherwise as listed.  Of all their pages, the last one for a status is
    its answer, and without one the last global page; the size counts the statuses that
    have a page and the global page once.  Registrars of different orders can be listed
    in any order.  Pages that are added later, in any batches, come after those. -/
theorem ofRegistrars_answers (registrars : List Registrar) :
    let running := Registrar.inOrder Registrar.order registrars
    Registrar.InOrder Registrar.order registrars running ∧
      (∀ other, Registrar.InOrder Registrar.order registrars other → other = running) ∧
      (ofRegistrars registrars).Answers (running.flatMap Registrar.pages) ∧
      ((registrars.map Registrar.order).Nodup → ∀ listed : List Registrar,
        listed.Perm registrars → ofRegistrars listed = ofRegistrars registrars) ∧
      ∀ batches : List (List ErrorPage),
        (batches.foldl addAll empty).Answers batches.flatten ∧
        (batches.foldl addAll (ofRegistrars registrars)).Answers
          (running.flatMap Registrar.pages ++ batches.flatten) := by
  intro running
  have hrunning := Registrar.inOrder_inOrder Registrar.order registrars
  have hreflects := reflects_ofRegistrars registrars
  refine ⟨hrunning, fun other hother => hother.eq hrunning, hreflects.answers,
    fun hnodup listed hperm => ?_, fun batches => ⟨?_, ?_⟩⟩
  · rw [ofRegistrars, Registrar.inOrder_perm hperm hnodup]
    rfl
  · rw [addAll_flatten]
    exact (reflects_empty.addAll batches.flatten).answers
  · rw [addAll_flatten]
    exact (hreflects.addAll batches.flatten).answers

end ErrorPages

end FaultPages
