import FaultPages.Toml.Value
import Mathlib.Data.List.Basic

/-! # Tables — documents that are built at their end

    A document that is written table by table changes at its end alone: an entry is put behind
    those that are there (`define_of_not_mem`), and a table that was opened last is changed in
    its place (`extend_last`).  So a table that is added (`addTable`) stands behind what was
    there, or at the end of the table that its path goes through. -/

namespace FaultPages.Toml

variable {key : Text} {value : Value} {entries before more : Entries} {path : List Text}

-- ── Changes under one key ────────────────────────────────────────────────────────

/-- What is new is put at the end. -/
theorem update_of_not_mem (change : Option Value → Option Value)
    (h : key ∉ entries.map Prod.fst) :
    update key change entries = (change none).map fun value => entries ++ [(key, value)] := by
  induction entries with
  | nil => rfl
  | cons entry entries ih =>
      obtain ⟨k, v⟩ := entry
      obtain ⟨hk, hrest⟩ := not_or.mp (List.mem_cons.not.mp h)
      rw [update, if_neg (Ne.symm hk), ih hrest, Option.map_map]
      rfl

/-- What is there is changed in its place. -/
theorem update_last (change : Option Value → Option Value) (h : key ∉ before.map Prod.fst) :
    update key change (before ++ [(key, value)])
      = (change (some value)).map fun value => before ++ [(key, value)] := by
  induction before with
  | nil => rw [List.nil_append, update, if_pos rfl]; rfl
  | cons entry before ih =>
      obtain ⟨k, v⟩ := entry
      obtain ⟨hk, hrest⟩ := not_or.mp (List.mem_cons.not.mp h)
      rw [List.cons_append, update, if_neg (Ne.symm hk), ih hrest, Option.map_map]
      rfl

theorem define_of_not_mem (h : key ∉ entries.map Prod.fst) :
    define key value entries = some (entries ++ [(key, value)]) :=
  update_of_not_mem _ h

/-- Entries of different keys are put one after the other. -/
theorem foldlM_define (h : ((entries ++ more).map Prod.fst).Nodup) :
    more.foldlM (fun entries entry => define entry.1 entry.2 entries) entries
      = some (entries ++ more) := by
  induction more generalizing entries with
  | nil => rw [List.append_nil]; rfl
  | cons entry more ih =>
      obtain ⟨key, value⟩ := entry
      have hkey : key ∉ entries.map Prod.fst := by
        rw [List.map_append, List.nodup_append] at h
        intro hmem
        exact h.2.2 key hmem key List.mem_cons_self rfl
      have happend : entries ++ (key, value) :: more = entries ++ [(key, value)] ++ more :=
        List.append_cons entries (key, value) more
      rw [happend] at h ⊢
      show (define key value entries).bind _ = _
      rw [define_of_not_mem hkey, Option.bind_some]
      exact ih h

theorem foldlM_define_nil (h : (entries.map Prod.fst).Nodup) :
    entries.foldlM (fun entries entry => define entry.1 entry.2 entries) [] = some entries :=
  @foldlM_define [] entries h

-- ── Changes of a table ───────────────────────────────────────────────────────────

/-- A header opens a table that is new. -/
theorem openTable_of_not_mem (h : key ∉ entries.map Prod.fst) :
    openTable [key] entries = some (entries ++ [(key, .table .header [])]) :=
  update_of_not_mem _ h

/-- The table of a longer path is opened inside the first one. -/
theorem openTable_cons (hpath : path ≠ []) :
    openTable (key :: path) = extend [key] (openTable path) := by
  obtain ⟨next, path, rfl⟩ := List.exists_cons_of_ne_nil hpath
  rfl

/-- A path through a table that is new implies it. -/
theorem extend_of_not_mem (change : Entries → Option Entries) (h : key ∉ entries.map Prod.fst) :
    extend (key :: path) change entries
      = (extend path change []).map fun inner => entries ++ [(key, .table .implied inner)] := by
  rw [extend, update_of_not_mem _ h, Option.map_map]
  rfl

/-- A path through the last table changes that one alone. -/
theorem extend_last {origin : Origin} (change : Entries → Option Entries)
    (horigin : origin ≠ .inline) (h : key ∉ before.map Prod.fst) :
    extend (key :: path) change (before ++ [(key, .table origin entries)])
      = (extend path change entries).map fun inner => before ++ [(key, .table origin inner)] := by
  rw [extend, update_last _ h]
  show (if origin = .inline then none else _).map _ = _
  rw [if_neg horigin, Option.map_map]
  rfl

/-- And so does any number of changes. -/
theorem foldlM_extend_last {α : Type} {origin : Origin} {change : α → Entries → Option Entries}
    {changes : List α} (horigin : origin ≠ .inline) (h : key ∉ before.map Prod.fst) :
    changes.foldlM (fun root a => extend (key :: path) (change a) root)
        (before ++ [(key, .table origin entries)])
      = (changes.foldlM (fun inner a => extend path (change a) inner) entries).map
          fun inner => before ++ [(key, .table origin inner)] := by
  induction changes generalizing entries with
  | nil => rfl
  | cons a changes ih =>
      rw [List.foldlM_cons, List.foldlM_cons, extend_last (change a) horigin h]
      show ((extend path (change a) entries).map _).bind _
        = ((extend path (change a) entries).bind _).map _
      cases extend path (change a) entries with
      | none => rfl
      | some inner => exact ih

-- ── A table with its entries ─────────────────────────────────────────────────────

/-- Open the table of a header, and put entries into it. -/
def addTable (path : List Text) (entries root : Entries) : Option Entries :=
  (openTable path root).bind fun root =>
    entries.foldlM (fun root entry => extend path (define entry.1 entry.2) root) root

/-- A table that is new stands at the end. -/
theorem addTable_of_not_mem (h : key ∉ before.map Prod.fst)
    (hnodup : (entries.map Prod.fst).Nodup) :
    addTable [key] entries before = some (before ++ [(key, .table .header entries)]) := by
  have horigin : Origin.header ≠ .inline := nofun
  rw [addTable, openTable_of_not_mem h, Option.bind_some]
  refine (foldlM_extend_last horigin h).trans ?_
  exact congrArg (Option.map _) (foldlM_define_nil hnodup)

/-- A table inside the last one is added to that one alone. -/
theorem addTable_last {origin : Origin} {inner : Entries} (hpath : path ≠ [])
    (horigin : origin ≠ .inline) (h : key ∉ before.map Prod.fst) :
    addTable (key :: path) entries (before ++ [(key, .table origin inner)])
      = (addTable path entries inner).map fun inner => before ++ [(key, .table origin inner)] := by
  rw [addTable, openTable_cons hpath, extend_last _ horigin h, addTable]
  show ((openTable path inner).map _).bind _ = _
  cases openTable path inner with
  | none => rfl
  | some inner => exact foldlM_extend_last horigin h

/-- A table inside one that is new implies that one. -/
theorem addTable_implied (hpath : path ≠ []) (h : key ∉ before.map Prod.fst) :
    addTable (key :: path) entries before
      = (addTable path entries []).map fun inner => before ++ [(key, .table .implied inner)] := by
  rw [addTable, openTable_cons hpath, extend_of_not_mem _ h, addTable]
  show ((openTable path []).map _).bind _ = _
  cases openTable path [] with
  | none => rfl
  | some inner => exact foldlM_extend_last nofun h

end FaultPages.Toml
