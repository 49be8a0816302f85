import FaultPages.Proofs.Toml.Spelling
import FaultPages.Proofs.Toml.Tables
import FaultPages.Toml.Reader

/-! # Writing — documents that are read line by line

    A document of scalars is written as the assignments of its root table and then block by
    block, each under a header (`written`).  Each line is read by itself, up to its line break
    (`line_assigns`, `line_opens`), so by induction on the lines the reader does to the root
    table what the document says, in order (`parse?_written`).  Keys need no quotes here;
    strings may be spelt in any way. -/

namespace FaultPages.Toml

variable {c : Char} {key rest : Text} {path : List Text} {doc : Document}

-- ── Keys ─────────────────────────────────────────────────────────────────────────

/-- A key that needs no quotes. -/
def IsBare (key : Text) : Prop := key ≠ [] ∧ key.all isBareKeyChar = true

instance (key : Text) : Decidable (IsBare key) := inferInstanceAs (Decidable (_ ∧ _))

/-- A path of such keys that a header may have. -/
def IsBarePath (path : List Text) : Prop :=
  path ≠ [] ∧ path.length ≤ depthLimit ∧ ∀ key ∈ path, IsBare key

instance (path : List Text) : Decidable (IsBarePath path) :=
  inferInstanceAs (Decidable (_ ∧ _ ∧ _))

theorem ne_of_isBareKeyChar (h : isBareKeyChar c = true) {mark : Char}
    (hmark : isBareKeyChar mark = false) : c ≠ mark := by
  rintro rfl
  exact Bool.noConfusion (h.symm.trans hmark)

theorem skipSpaces_of_isBareKeyChar (h : isBareKeyChar c = true) (t : Text) :
    skipSpaces (c :: t) = c :: t := by
  have hblank : (c == ' ' || c == '\t') = false := by
    rw [Bool.or_eq_false_iff, beq_eq_false_iff_ne, beq_eq_false_iff_ne]
    exact ⟨ne_of_isBareKeyChar h rfl, ne_of_isBareKeyChar h rfl⟩
  exact List.dropWhile_cons_of_neg (Bool.not_eq_true _ ▸ hblank)

theorem IsBare.exists_cons (h : IsBare key) :
    ∃ c more, key = c :: more ∧ isBareKeyChar c = true := by
  obtain ⟨c, more, rfl⟩ := List.exists_cons_of_ne_nil h.1
  exact ⟨c, more, rfl, List.all_eq_true.mp h.2 c List.mem_cons_self⟩

/-- A key is read up to the first character that cannot belong to it. -/
theorem keyPart?_bare (h : IsBare key) (hrest : rest.head?.all fun c => !isBareKeyChar c) :
    keyPart? (key ++ rest) = some (key, rest) := by
  have htake : (key ++ rest).takeWhile isBareKeyChar = key := by
    rw [List.takeWhile_append_of_pos (List.all_eq_true.mp h.2)]
    cases rest with
    | nil => simp
    | cons c rest => simp_all
  obtain ⟨c, more, hkey, hc⟩ := h.exists_cons
  unfold keyPart?
  split
  next hquote =>
    rw [hkey] at hquote
    exact absurd (List.cons.inj hquote).1 (ne_of_isBareKeyChar hc rfl)
  next hquote =>
    rw [hkey] at hquote
    exact absurd (List.cons.inj hquote).1 (ne_of_isBareKeyChar hc rfl)
  next =>
    rw [htake]
    show (if key = [] then none else some (key, (key ++ rest).drop key.length)) = _
    rw [if_neg h.1, List.drop_left]

/-- The keys of a path between dots. -/
def dotted (path : List Text) : Text := ['.'].intercalate path

theorem dotted_singleton : dotted [key] = key := List.intercalate_singleton

theorem dotted_cons (hpath : path ≠ []) : dotted (key :: path) = key ++ '.' :: dotted path := by
  obtain ⟨next, path, rfl⟩ := List.exists_cons_of_ne_nil hpath
  rw [dotted, List.intercalate_cons_cons, List.append_assoc, List.singleton_append]
  rfl

theorem exists_dotted_cons (hpath : path ≠ []) (hbare : ∀ key ∈ path, IsBare key) :
    ∃ c more, dotted path = c :: more ∧ isBareKeyChar c = true := by
  obtain ⟨key, path, rfl⟩ := List.exists_cons_of_ne_nil hpath
  obtain ⟨c, more, rfl, hc⟩ := (hbare key List.mem_cons_self).exists_cons
  cases path with
  | nil => exact ⟨c, more, dotted_singleton, hc⟩
  | cons next path => exact ⟨c, _, dotted_cons (List.cons_ne_nil next path), hc⟩

theorem skipSpaces_dotted (hpath : path ≠ []) (hbare : ∀ key ∈ path, IsBare key) (rest : Text) :
    skipSpaces (dotted path ++ rest) = dotted path ++ rest := by
  obtain ⟨c, more, ht, hc⟩ := exists_dotted_cons hpath hbare
  rw [ht]
  exact skipSpaces_of_isBareKeyChar hc (more ++ rest)

/-- A path is read key by key, and then the blanks behind it. -/
theorem keyParts?_dotted (hpath : path ≠ []) (hbare : ∀ key ∈ path, IsBare key)
    (hrest : rest.head?.all fun c => !isBareKeyChar c) (hdot : (skipSpaces rest).head? ≠ some '.') :
    keyParts? (dotted path ++ rest) = some (path, skipSpaces rest) := by
  -- Only the last key ends at `rest`; any other ends at its dot.
  induction path with
  | nil => exact absurd rfl hpath
  | cons key path ih =>
      obtain ⟨hkey, hbare⟩ := List.forall_mem_cons.mp hbare
      by_cases hlast : path = []
      · subst hlast
        rw [dotted_singleton, keyParts?, keyPart?_bare hkey hrest]
        dsimp only
        split
        next h =>
          rw [h] at hdot
          exact absurd rfl hdot
        next => rfl
      · have hnext : skipSpaces ('.' :: (dotted path ++ rest)) = '.' :: (dotted path ++ rest) := rfl
        have hlen : (dotted path ++ rest).length
            < (key ++ '.' :: (dotted path ++ rest)).length := by
          simp only [List.length_append, List.length_cons]
          omega
        rw [dotted_cons hlast, List.append_assoc, List.cons_append, keyParts?,
          keyPart?_bare hkey rfl]
        simp only [hnext]
        rw [skipSpaces_dotted hlast hbare, if_pos hlen, ih hlast hbare]
        rfl

theorem key?_dotted (h : IsBarePath path) (hrest : rest.head?.all fun c => !isBareKeyChar c)
    (hdot : (skipSpaces rest).head? ≠ some '.') :
    key? (dotted path ++ rest) = some (path, skipSpaces rest) := by
  obtain ⟨hpath, hdepth, hbare⟩ := h
  rw [key?, keyParts?_dotted hpath hbare hrest hdot, Option.filter_some,
    if_pos (decide_eq_true hdepth)]

-- ── Values ───────────────────────────────────────────────────────────────────────

/-- A value that takes one line. -/
inductive Scalar where
  | string (s : Text)
  | boolean (flag : Bool)

namespace Scalar

/-- What the reader makes of it. -/
def value : Scalar → Value
  | .string s => .string s
  | .boolean flag => .boolean flag

/-- The text of a scalar. -/
def written (spelling : Spelling) : Scalar → Text
  | .string s => '"' :: (spelling.write s ++ ['"'])
  | .boolean flag => Json.boolText flag

end Scalar

variable (spelling : Spelling)

theorem skipSpaces_scalar (scalar : Scalar) (rest : Text) :
    skipSpaces (' ' :: (scalar.written spelling ++ rest)) = scalar.written spelling ++ rest := by
  cases scalar with
  | string s => rfl
  | boolean flag => cases flag <;> rfl

/-- A scalar is read up to the end of its line. -/
theorem value?_written (scalar : Scalar) (fuel depth : Nat) (rest : Text) :
    value? (fuel + 1) depth (scalar.written spelling ++ '\n' :: rest)
      = some (scalar.value, '\n' :: rest) := by
  cases scalar with
  | string s =>
      have hread : string? ('"' :: (spelling.write s ++ '"' :: '\n' :: rest))
          = some (s, '\n' :: rest) :=
        string?_spelt (spelling.spelt s) nofun
      rw [Scalar.written, List.cons_append, List.append_assoc, List.singleton_append, value?, hread]
      rfl
  | boolean flag => cases flag <;> rfl

-- ── Lines ────────────────────────────────────────────────────────────────────────

/-- A scalar under a key. -/
structure Assignment where
  key : Text
  scalar : Scalar
  isBare : IsBare key

namespace Assignment

variable (a : Assignment)

/-- The entry of a table that it makes. -/
def entry : Text × Value := (a.key, a.scalar.value)

/-- The line that gives it. -/
def written : Text := a.key ++ ' ' :: '=' :: ' ' :: (a.scalar.written spelling ++ ['\n'])

end Assignment

/-- What an assignment does is put its value under its key in the current table. -/
theorem line_assigns (a : Assignment) (doc : Document) (rest : Text) :
    line doc (a.written spelling ++ rest)
      = (extend doc.current (define a.key a.scalar.value) doc.root).map fun root =>
          ({ doc with root := root }, '\n' :: rest) := by
  let after : Text := a.scalar.written spelling ++ '\n' :: rest
  let t : Text := a.key ++ ' ' :: '=' :: ' ' :: after
  have ht : a.written spelling ++ rest = t := by simp [Assignment.written, t, after]
  have hkey : key? t = some ([a.key], '=' :: ' ' :: after) := by
    have hdepth : 1 ≤ depthLimit := by decide
    have hpath : IsBarePath [a.key] := ⟨nofun, hdepth, List.forall_mem_singleton.mpr a.isBare⟩
    have hread := @key?_dotted (' ' :: '=' :: ' ' :: after) [a.key] hpath rfl nofun
    rwa [dotted_singleton] at hread
  -- A line is told by its first character, and no key starts like a header or a comment.
  have hline : line doc t = assignment doc t := by
    obtain ⟨c, more, hc, hbare⟩ := a.isBare.exists_cons
    have hcons : t = c :: (more ++ ' ' :: '=' :: ' ' :: after) := congrArg (· ++ _) hc
    rw [hcons, line, skipSpaces_of_isBareKeyChar hbare]
    split
    next h => exact absurd (List.cons.inj h).1 (ne_of_isBareKeyChar hbare rfl)
    next h => exact absurd (List.cons.inj h).1 (ne_of_isBareKeyChar hbare rfl)
    next =>
      refine if_neg ?_
      rintro (h | h | h)
      · exact ne_of_isBareKeyChar hbare rfl h
      · exact ne_of_isBareKeyChar hbare rfl h
      · exact ne_of_isBareKeyChar hbare rfl h
  rw [ht, hline, assignment, hkey]
  show (value? _ depthLimit (skipSpaces (' ' :: after))).bind _ = _
  rw [skipSpaces_scalar, value?_written, Option.map_eq_bind]
  rfl

/-- The line of a header. -/
def headerText (path : List Text) : Text := '[' :: (dotted path ++ [']', '\n'])

/-- What a header does is open its table, which is the current one then. -/
theorem line_opens (h : IsBarePath path) (doc : Document) (rest : Text) :
    line doc (headerText path ++ rest)
      = (openTable path doc.root).map fun root => (⟨root, path⟩, '\n' :: rest) := by
  let t : Text := dotted path ++ ']' :: '\n' :: rest
  have ht : headerText path ++ rest = '[' :: t := by simp [headerText, t]
  have hspaces : skipSpaces t = t := skipSpaces_dotted h.1 h.2.2 _
  have hkey : key? t = some (path, ']' :: '\n' :: rest) := key?_dotted h rfl nofun
  -- Nor does one start like the second bracket of an array's header.
  have hline : line doc ('[' :: t) = header doc false t := by
    obtain ⟨c, more, hc, hbare⟩ := exists_dotted_cons h.1 h.2.2
    have hcons : t = c :: (more ++ ']' :: '\n' :: rest) := congrArg (· ++ _) hc
    rw [hcons, line, show skipSpaces ('[' :: c :: _) = '[' :: c :: _ from rfl]
    split
    next h => exact absurd (List.cons.inj (List.cons.inj h).2).1 (ne_of_isBareKeyChar hbare rfl)
    next h => rw [(List.cons.inj h).2]
    next h => exact absurd rfl (h _)
  rw [ht, hline, header, hspaces, hkey]
  rfl

-- ── Documents ────────────────────────────────────────────────────────────────────

theorem lines_nil (doc : Document) : lines doc [] = some doc := by
  rw [lines]
  rfl

/-- After one line the reader goes on behind its line break. -/
theorem lines_of_line {t : Text} {result : Option Entries} {next : Entries → Document}
    (h : line doc t = result.map fun root => (next root, '\n' :: rest))
    (hlen : rest.length < t.length) :
    lines doc t = result.bind fun root => lines (next root) rest := by
  rw [lines, h]
  cases result with
  | none => rfl
  | some root =>
      cases rest with
      | nil => exact (lines_nil (next root)).symm
      | cons c rest => exact if_pos hlen

/-- A table under a header of its own. -/
structure Block where
  path : List Text
  assignments : List Assignment
  isBarePath : IsBarePath path

namespace Block

variable (block : Block)

/-- The entries of the table. -/
def entries : Entries := block.assignments.map Assignment.entry

/-- The lines of a block. -/
def written : Text :=
  headerText block.path ++ block.assignments.flatMap (Assignment.written spelling)

end Block

/-- A document: the assignments of its root table, and then its blocks. -/
def written (assignments : List Assignment) (blocks : List Block) : Text :=
  assignments.flatMap (Assignment.written spelling) ++ blocks.flatMap (Block.written spelling)

/-- Assignments put their entries into the current table, one after the other. -/
theorem lines_assignments (assignments : List Assignment) (doc : Document) (rest : Text) :
    lines doc (assignments.flatMap (Assignment.written spelling) ++ rest)
      = ((assignments.map Assignment.entry).foldlM
          (fun root entry => extend doc.current (define entry.1 entry.2) root) doc.root).bind
          fun root => lines { doc with root := root } rest := by
  induction assignments generalizing doc with
  | nil => rfl
  | cons a assignments ih =>
      let more : Text := assignments.flatMap (Assignment.written spelling) ++ rest
      have hlen : more.length < (a.written spelling ++ more).length := by
        simp only [Assignment.written, List.length_append, List.length_cons]
        omega
      rw [List.flatMap_cons, List.append_assoc,
        lines_of_line (line_assigns spelling a doc more) hlen, List.map_cons, List.foldlM_cons]
      show Option.bind (extend doc.current (define a.key a.scalar.value) doc.root) _
        = (Option.bind (extend doc.current (define a.key a.scalar.value) doc.root) _).bind _
      cases extend doc.current (define a.key a.scalar.value) doc.root with
      | none => rfl
      | some root => exact ih { doc with root := root }

/-- A block adds its table. -/
theorem lines_block (block : Block) (doc : Document) (rest : Text) :
    lines doc (block.written spelling ++ rest)
      = (addTable block.path block.entries doc.root).bind fun root =>
          lines ⟨root, block.path⟩ rest := by
  let more : Text := block.assignments.flatMap (Assignment.written spelling) ++ rest
  have hlen : more.length < (headerText block.path ++ more).length := by
    simp only [headerText, List.length_append, List.length_cons]
    omega
  rw [Block.written, List.append_assoc,
    lines_of_line (line_opens block.isBarePath doc more) hlen, addTable]
  cases openTable block.path doc.root with
  | none => rfl
  | some root => exact lines_assignments spelling block.assignments ⟨root, block.path⟩ rest

theorem lines_blocks (blocks : List Block) (doc : Document) :
    (lines doc (blocks.flatMap (Block.written spelling))).map Document.root
      = blocks.foldlM (fun root block => addTable block.path block.entries root) doc.root := by
  induction blocks generalizing doc with
  | nil => exact congrArg (Option.map _) (lines_nil doc)
  | cons block blocks ih =>
      rw [List.flatMap_cons, lines_block, List.foldlM_cons]
      show (Option.bind (addTable block.path block.entries doc.root) _).map _
        = Option.bind (addTable block.path block.entries doc.root) _
      cases addTable block.path block.entries doc.root with
      | none => rfl
      | some root => exact ih ⟨root, block.path⟩

/-- A document does not start with a byte order mark. -/
theorem parse?_of_lines (assignments : List Assignment) (blocks : List Block) :
    parse? (written spelling assignments blocks)
      = (lines ⟨[], []⟩ (written spelling assignments blocks)).map Document.root := by
  have hmark : ∀ {c : Char}, isBareKeyChar c = true → c.toNat ≠ 0xFEFF := by
    intro c h hc
    have hnot : isBareKeyChar (Char.ofNat 0xFEFF) = false := by decide
    rw [← hc, Char.ofNat_toNat, h] at hnot
    cases hnot
  cases assignments with
  | nil =>
      cases blocks with
      | nil => rfl
      | cons block blocks => rfl
  | cons a assignments =>
      obtain ⟨c, more, hc, hbare⟩ := a.isBare.exists_cons
      have hcons : ∃ t, written spelling (a :: assignments) blocks = c :: t := by
        simp only [written, List.flatMap_cons, Assignment.written, hc, List.cons_append]
        exact ⟨_, rfl⟩
      obtain ⟨t, ht⟩ := hcons
      rw [ht]
      show (lines _ (if c.toNat = 0xFEFF then t else c :: t)).map _ = _
      rw [if_neg (hmark hbare)]

/-- **A document is read as what it says.**  Its own assignments are put into the root table,
    and then each of its blocks adds a table. -/
theorem parse?_written (assignments : List Assignment) (blocks : List Block) :
    parse? (written spelling assignments blocks)
      = ((assignments.map Assignment.entry).foldlM
          (fun root entry => define entry.1 entry.2 root) []).bind
          (blocks.foldlM fun root block => addTable block.path block.entries root) := by
  rw [parse?_of_lines, written, lines_assignments]
  show (Option.bind (List.foldlM (fun root entry => define entry.1 entry.2 root) []
    (assignments.map Assignment.entry)) _).map _ = _
  cases (assignments.map Assignment.entry).foldlM
      (fun root entry => define entry.1 entry.2 root) [] with
  | none => rfl
  | some root => exact lines_blocks spelling blocks ⟨root, []⟩

end FaultPages.Toml
