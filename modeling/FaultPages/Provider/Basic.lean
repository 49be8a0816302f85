import FaultPages.Fault
import FaultPages.Files.Tree

/-! # Template providers — where an application keeps its own views

    A provider says whether it has a template for a view and loads it.  Its
    answers may have effects in a monad. -/

namespace FaultPages

/-- A source of templates. -/
structure Provider (m : Type → Type) where
  name : Text
  isAvailable : Text → m Bool
  load : Text → m (Except Fault (Option Text))

namespace Provider

/-- The path of a view's file in a folder. -/
def templatePath (root view : Text) : Text := joinPath root (view ++ ".html".toList)

/-- Whether an entry is a file. -/
def isFile : Option FileEntry → Bool
  | some (.file _) => true
  | _ => false

/-- The HTML files of a folder. -/
def folder {m : Type → Type} [Monad m] (tree : FileTree) (root : Text) : Provider m where
  name := "directory ".toList ++ root
  isAvailable view := pure (isFile (tree.entry? (templatePath root view)))
  load view := pure <|
    match tree.entry? (templatePath root view) with
    | some (.file bytes) =>
      match FileEntry.read (.file bytes) with
      | .ok t => .ok (some t)
      | .error fault => .error (.io fault)
    | _ => .ok none

end Provider

end FaultPages
