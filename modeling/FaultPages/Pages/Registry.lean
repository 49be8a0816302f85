import FaultPages.Report.Status
import FaultPages.Settings.Basic

/-! # Error pages — where an error of some status is rendered

    A page belongs to one status or to all of them.  A registry answers with the
    page of the status, and else with the global one; a page that is added
    replaces the earlier page of its kind.  Registrars run in ascending order,
    and those of equal order as they are listed. -/

namespace FaultPages

/-- A path to render errors at, for one status or, without one, for all. -/
structure ErrorPage where
  status : Option Status
  path : Text
  deriving DecidableEq, Repr

/-- Whether a page stands for every status. -/
def ErrorPage.isGlobal (p : ErrorPage) : Bool := p.status.isNone

/-- The registered pages: the global one, and one for each of some statuses. -/
structure ErrorPages where
  global : Option Text
  byStatus : List (Status × Text)
  deriving DecidableEq, Repr

namespace ErrorPages

/-- A registry without pages. -/
def empty : ErrorPages := ⟨none, []⟩

/-- Put the path of a status in place of the earlier one, or at the end. -/
def put (status : Status) (path : Text) : List (Status × Text) → List (Status × Text)
  | [] => [(status, path)]
  | (s, p) :: rest => if s = status then (s, path) :: rest else (s, p) :: put status path rest

/-- Register a page. -/
def add (pages : ErrorPages) (page : ErrorPage) : ErrorPages :=
  match page.status with
  | none => { pages with global := some page.path }
  | some status => { pages with byStatus := put status page.path pages.byStatus }

/-- Register pages one after the other. -/
def addAll (pages : ErrorPages) (added : List ErrorPage) : ErrorPages := added.foldl add pages

/-- The global page. -/
def globalPage? (pages : ErrorPages) : Option ErrorPage :=
  pages.global.map fun path => ⟨none, path⟩

/-- The page for a status: its own, or else the global one. -/
def resolve? (pages : ErrorPages) (status : Status) : Option ErrorPage :=
  match pages.byStatus.lookup status with
  | some path => some ⟨some status, path⟩
  | none => pages.globalPage?

/-- The number of pages. -/
def size (pages : ErrorPages) : Nat :=
  pages.byStatus.length + if pages.global.isSome then 1 else 0

/-- Whether there are no pages. -/
def isEmpty (pages : ErrorPages) : Bool := pages.size == 0

end ErrorPages

/-- A contributor of pages. -/
structure Registrar where
  order : Int
  pages : List ErrorPage
  deriving DecidableEq, Repr

namespace Registrar

/-- The registrar of the error controller, as the global page. -/
def ofSettings (s : Settings) : Registrar := ⟨0, [⟨none, s.errorPagePath⟩]⟩

/-- The order in which contributors run: ascending, and otherwise as listed. -/
def inOrder {α : Type} (order : α → Int) (registrars : List α) : List α :=
  registrars.mergeSort fun a b => order a ≤ order b

end Registrar

/-- The registry of the pages that registrars contribute. -/
def ErrorPages.ofRegistrars (registrars : List Registrar) : ErrorPages :=
  (Registrar.inOrder Registrar.order registrars).foldl (fun pages r => pages.addAll r.pages) .empty

end FaultPages
