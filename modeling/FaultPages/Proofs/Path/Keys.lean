import FaultPages.Path.Resolve
import FaultPages.Proofs.Text.Digits
import Mathlib.Data.List.Forall2

/-! # Keys — nested paths evaluated in place, and positions by any name

    A path is walked in one pass that evaluates each nested path where it is met and gives
    up at the first step that leads nowhere.  The same comes of two phases
    (`resolve?_eq_keyed`): first put the key of every nested path in its place, innermost first
    (`keyed?`), and then walk a path of names and positions alone.  The induction is over the
    segments of a path together with those of the paths nested in it, and its three parts are
    the three functions of the walk: into the root, down from a value, and one step.

    A name that writes a position and the position are the same step into any value
    (`descend?_decimal`), since digits are read back as the number they write. -/

namespace FaultPages

open Json

-- ── Keys in place ────────────────────────────────────────────────────────────────

/-- The key that a value names: a string itself, a number and a truth value by their text.
    Null, arrays and objects name none. -/
inductive Json.Value.Names : Value → Text → Prop where
  | string (t : Text) : Names (.string t) t
  | number (n : Number) : Names (.number n) n.text
  | bool (flag : Bool) : Names (.bool flag) (boolText flag)

/-- A segment with a key in the place of a nested path, if it is one. -/
inductive Segment.Keyed (root : Fields) : Segment → Segment → Prop where
  | property (name : Text) : Keyed root (.property name) (.property name)
  | index (i : Nat) : Keyed root (.index i) (.index i)
  | nested {path : Path} {value : Value} {key : Text} (leads : Path.resolve? root path = some value)
      (names : value.Names key) : Keyed root (.nested path) (.property key)

mutual

/-- A segment without a nested path: the key in its place, found by putting keys in place
    there first. -/
def Segment.keyed? (root : Fields) : Segment → Option Segment
  | .property name => some (.property name)
  | .index i => some (.index i)
  | .nested path =>
    (((Path.keyed? root path).bind (Path.resolve? root)).bind Value.key?).map .property

/-- A path without nested paths: the key of each in its place, if all of them have one. -/
def Path.keyed? (root : Fields) : List Segment → Option (List Segment)
  | [] => some []
  | segment :: path =>
    (segment.keyed? root).bind fun first => (Path.keyed? root path).map (first :: ·)

end

variable {root : Fields}

/-- A walk along a path that takes the first step by `enter`, and goes on from there, is the same
    with the keys in place if this holds of the first segment and of the rest.  A missing key
    stops the walk wherever it stands: at the first step, or at whatever value the rest is
    walked from. -/
private theorem walk_eq_keyed (walk : Path → Option Value) (enter : PathStep → Option Value)
    (hwalk : ∀ segment path, walk (segment :: path)
      = ((segment.step? root).bind enter).bind (Path.descend? root path))
    {segment : Segment} {path : Path}
    (hsegment : segment.step? root = (segment.keyed? root).bind (Segment.step? root))
    (hpath : ∀ value, Path.descend? root path value
      = (Path.keyed? root path).bind fun rest => Path.descend? root rest value) :
    walk (segment :: path) = (Path.keyed? root (segment :: path)).bind walk := by
  rw [hwalk, Path.keyed?, hsegment, funext hpath]
  cases segment.keyed? root with
  | none => rfl
  | some first =>
      cases Path.keyed? root path with
      | none => exact Option.bind_fun_none _
      | some rest => exact (hwalk first rest).symm

mutual

/-- A segment stands for the same step with the key in place. -/
theorem Segment.step?_eq_keyed (segment : Segment) :
    segment.step? root = (segment.keyed? root).bind (Segment.step? root) := by
  cases segment with
  | property name => rfl
  | index i => rfl
  | nested path =>
      rw [Segment.step?, Segment.keyed?, Path.resolve?_eq_keyed path]
      cases ((Path.keyed? root path).bind (Path.resolve? root)).bind Value.key? with
      | none => rfl
      | some key => rfl

/-- **Keys first.**  A path leads to what it leads to once all keys are in place, and nowhere if
    one of them is missing. -/
theorem Path.resolve?_eq_keyed (path : List Segment) :
    Path.resolve? root path = (Path.keyed? root path).bind (Path.resolve? root) := by
  cases path with
  | nil => rfl
  | cons segment path =>
      exact walk_eq_keyed (Path.resolve? root) (PathStep.enter? root) (fun _ _ => rfl)
        (Segment.step?_eq_keyed segment) (Path.descend?_eq_keyed path)

/-- The rest of a path leads from a value to the same with the keys in place. -/
theorem Path.descend?_eq_keyed (path : List Segment) (value : Value) :
    Path.descend? root path value
      = (Path.keyed? root path).bind fun rest => Path.descend? root rest value := by
  cases path with
  | nil => rfl
  | cons segment path =>
      exact walk_eq_keyed (fun rest => Path.descend? root rest value) (PathStep.descend? value)
        (fun _ _ => rfl) (Segment.step?_eq_keyed segment) (Path.descend?_eq_keyed path)

end

-- ── Which keys ───────────────────────────────────────────────────────────────────

theorem Json.Value.key?_eq_some_iff {value : Value} {key : Text} :
    value.key? = some key ↔ value.Names key := by
  constructor
  · intro h
    cases value with
    | null => cases h
    | bool flag =>
        cases h
        exact .bool flag
    | number n =>
        cases h
        exact .number n
    | string t =>
        cases h
        exact .string key
    | array items => cases h
    | object fields => cases h
  · intro h
    cases h with
    | string => rfl
    | number => rfl
    | bool => rfl

theorem Segment.keyed?_eq_some_iff {segment first : Segment} :
    segment.keyed? root = some first ↔ segment.Keyed root first := by
  cases segment with
  | property name =>
      constructor
      · intro h
        cases h
        exact .property name
      · intro h
        cases h
        rfl
  | index i =>
      constructor
      · intro h
        cases h
        exact .index i
      · intro h
        cases h
        rfl
  | nested path =>
      rw [keyed?, ← Path.resolve?_eq_keyed, Option.map_eq_some_iff]
      constructor
      · rintro ⟨key, hkey, rfl⟩
        obtain ⟨value, hvalue, hname⟩ := Option.bind_eq_some_iff.mp hkey
        exact .nested hvalue (Value.key?_eq_some_iff.mp hname)
      · intro h
        cases h with
        | @nested _ value key hvalue hname =>
            exact ⟨key, Option.bind_eq_some_iff.mpr ⟨value, hvalue,
              Value.key?_eq_some_iff.mpr hname⟩, rfl⟩

/-- Keys are put in place segment by segment. -/
theorem Path.keyed?_eq_some_iff {path rest : Path} :
    keyed? root path = some rest ↔ List.Forall₂ (Segment.Keyed root) path rest := by
  induction path generalizing rest with
  | nil =>
      constructor
      · intro h
        cases h
        exact .nil
      · intro h
        cases h
        rfl
  | cons segment path ih =>
      rw [keyed?, Option.bind_eq_some_iff]
      constructor
      · rintro ⟨first, hfirst, hmap⟩
        obtain ⟨rest, hrest, rfl⟩ := Option.map_eq_some_iff.mp hmap
        exact .cons (Segment.keyed?_eq_some_iff.mp hfirst) (ih.mp hrest)
      · intro h
        cases h with
        | cons hfirst hrest =>
            exact ⟨_, Segment.keyed?_eq_some_iff.mpr hfirst,
              Option.map_eq_some_iff.mpr ⟨_, ih.mpr hrest, rfl⟩⟩

/-- A path whose nested paths all have a key can have them put in place. -/
theorem Path.exists_keyed {path : Path}
    (h : ∀ q, .nested q ∈ path → ∃ value key, resolve? root q = some value ∧ value.Names key) :
    ∃ rest, List.Forall₂ (Segment.Keyed root) path rest := by
  induction path with
  | nil => exact ⟨[], .nil⟩
  | cons segment path ih =>
      obtain ⟨rest, hrest⟩ := ih fun q hq => h q (List.mem_cons_of_mem _ hq)
      cases segment with
      | property name => exact ⟨_, .cons (.property name) hrest⟩
      | index i => exact ⟨_, .cons (.index i) hrest⟩
      | nested q =>
          obtain ⟨value, key, hvalue, hname⟩ := h q List.mem_cons_self
          exact ⟨_, .cons (.nested hvalue hname) hrest⟩

/-- With the keys in place, each nested path among the segments has one. -/
theorem Path.exists_names_of_keyed {path rest q : Path}
    (h : List.Forall₂ (Segment.Keyed root) path rest) (hq : .nested q ∈ path) :
    ∃ value key, resolve? root q = some value ∧ value.Names key := by
  induction h with
  | nil => exact absurd hq List.not_mem_nil
  | cons hfirst hrest ih =>
      rcases List.mem_cons.mp hq with hhere | hbehind
      · cases hhere
        cases hfirst with
        | nested hvalue hname => exact ⟨_, _, hvalue, hname⟩
      · exact ih hbehind

/-- **Evaluating nested keys in place is putting them in place first.**  `keyed?` replaces each
    nested path by the name that it leads to and keeps all other segments.  Where each of
    them leads to a string, a number or a truth value, the path leads to what it leads to with
    the names in their place; where one of them leads nowhere, or to null, an array or an
    object, the path leads nowhere, whatever stands before and behind. -/
theorem Path.keys_first (root : Fields) (path : Path) :
    (∀ named, keyed? root path = some named ↔ List.Forall₂ (Segment.Keyed root) path named) ∧
      ((∀ q, .nested q ∈ path → ∃ value key, resolve? root q = some value ∧ value.Names key) →
        ∃ named, keyed? root path = some named ∧ resolve? root path = resolve? root named) ∧
      ∀ q, .nested q ∈ path →
        (∀ value, resolve? root q = some value →
          value = .null ∨ (∃ items, value = .array items) ∨ ∃ fields, value = .object fields) →
        resolve? root path = none := by
  refine ⟨fun named => keyed?_eq_some_iff, fun hkeys => ?_, fun q hq hnone => ?_⟩
  · obtain ⟨named, hnamed⟩ := exists_keyed hkeys
    have hkeyed := keyed?_eq_some_iff.mpr hnamed
    refine ⟨named, hkeyed, ?_⟩
    rw [resolve?_eq_keyed path, hkeyed, Option.bind_some]
  · rw [resolve?_eq_keyed path]
    -- with all keys in place, `q` would have one of them
    cases hkeyed : keyed? root path with
    | none => rfl
    | some named =>
        obtain ⟨value, key, hvalue, hname⟩ :=
          exists_names_of_keyed (keyed?_eq_some_iff.mp hkeyed) hq
        rcases hnone value hvalue with rfl | ⟨items, rfl⟩ | ⟨fields, rfl⟩
        · cases hname
        · cases hname
        · cases hname

/-- A key that is computed by a path whose own key is computed, and that indexes an array. -/
theorem Path.keys_first_array :
    let root : Fields := [("i".toList, .ofNat 1), ("k".toList, .ofString "i"),
      ("l".toList, .array [.null, .bool true])]
    let path : Path := [.property "l".toList, .nested [.nested [.property "k".toList]]]
    (∀ q, .nested q ∈ path → ∃ value key, resolve? root q = some value ∧ value.Names key) ∧
      List.Forall₂ (Segment.Keyed root) path [.property "l".toList, .property "1".toList] ∧
      resolve? root path = some (.bool true) := by
  intro root path
  have hinner : resolve? root [.nested [.property "k".toList]] = some (.ofNat 1) := rfl
  have hkeys : ∀ q, .nested q ∈ path →
      ∃ value key, resolve? root q = some value ∧ value.Names key := by
    intro q hq
    obtain rfl : q = [.nested [.property "k".toList]] := by simpa [path] using hq
    exact ⟨_, _, hinner, .number (.integer 1)⟩
  have hplace : keyed? root path = some [.property "l".toList, .property "1".toList] := by rfl
  obtain ⟨hkeyed, hsame, -⟩ := keys_first root path
  obtain ⟨named, hnamed, hresolve⟩ := hsame hkeys
  obtain rfl := Option.some.inj (hplace.symm.trans hnamed)
  refine ⟨hkeys, (hkeyed _).mp hplace, ?_⟩
  rw [hresolve]
  rfl

-- ── Positions ────────────────────────────────────────────────────────────────────

/-- What stands at a position of a value: an item of an array, or the field of an object whose
    name writes the position. -/
def Json.Value.at? (i : Nat) : Value → Option Value
  | .array items => items[i]?
  | .object fields => Fields.get? (Text.decimal i) fields
  | _ => none

theorem PathStep.descend?_position (i : Nat) (value : Value) :
    PathStep.descend? value (.position i) = value.at? i := by
  cases value with
  | null => rfl
  | bool flag => rfl
  | number n => rfl
  | string t => rfl
  | array items => rfl
  | object fields => rfl

/-- A name that writes a position leads to what stands there. -/
theorem PathStep.descend?_decimal {i : Nat} (hi : i < Text.indexBound) (value : Value) :
    PathStep.descend? value (.key (Text.decimal i)) = value.at? i := by
  cases value with
  | null => rfl
  | bool flag => rfl
  | number n => rfl
  | string t => rfl
  | array items =>
      show (Text.index? (Text.decimal i)).bind (items[·]?) = items[i]?
      rw [Text.index?_decimal hi, Option.bind_some]
  | object fields => rfl

theorem Path.descend?_append (p q : Path) (value : Value) :
    descend? root (p ++ q) value = (descend? root p value).bind (descend? root q) := by
  induction p generalizing value with
  | nil => rfl
  | cons segment p ih =>
      rw [List.cons_append, descend?, descend?, funext ih]
      exact (Option.bind_assoc ..).symm

/-- A path goes on from where its first part leads. -/
theorem Path.resolve?_append {p : Path} (hp : p ≠ []) (q : Path) :
    resolve? root (p ++ q) = (resolve? root p).bind (descend? root q) := by
  cases p with
  | nil => exact absurd rfl hp
  | cons segment p =>
      rw [List.cons_append, resolve?, resolve?, funext (descend?_append p q)]
      exact (Option.bind_assoc ..).symm

/-- One segment more is one step more. -/
theorem Path.resolve?_append_segment {p : Path} (hp : p ≠ []) {segment : Segment} {step : PathStep}
    (hstep : segment.step? root = some step) :
    resolve? root (p ++ [segment]) = (resolve? root p).bind (PathStep.descend? · step) := by
  rw [resolve?_append hp]
  refine congrArg (Option.bind _) (funext fun value => ?_)
  rw [descend?, hstep, Option.bind_some]
  exact Option.bind_fun_some _

/-- The key of a natural number is written as a position is. -/
theorem Json.Value.key?_ofNat (i : Nat) : (Value.ofNat i).key? = some (Text.decimal i) := by
  have htext : Text.ofInt i = Text.decimal i := by
    rw [Text.ofInt, if_neg (by omega), Int.natAbs_natCast]
  show some (Text.ofInt i) = _
  rw [htext]

/-- **The three ways to write a position agree.**  As a position, by the name that writes it, or
    by a nested path that leads to the number or to that name: behind any path it leads to
    what stands at the position, in an array of any length and in an object, and nowhere from any
    other value. -/
theorem Path.positions_agree (root : Fields) {p : Path} (hp : p ≠ []) {i : Nat}
    (hi : i < Text.indexBound) :
    resolve? root (p ++ [.index i]) = (resolve? root p).bind (Value.at? i) ∧
      resolve? root (p ++ [.property (Text.decimal i)]) = (resolve? root p).bind (Value.at? i) ∧
      ∀ q, resolve? root q = some (.ofNat i) ∨ resolve? root q = some (.string (Text.decimal i)) →
        resolve? root (p ++ [.nested q]) = (resolve? root p).bind (Value.at? i) := by
  have hname : ∀ {segment : Segment}, segment.step? root = some (.key (Text.decimal i)) →
      resolve? root (p ++ [segment]) = (resolve? root p).bind (Value.at? i) := by
    intro segment hstep
    rw [resolve?_append_segment hp hstep, funext (PathStep.descend?_decimal hi)]
  have hstep : (Segment.index i).step? root = some (.position i) := rfl
  refine ⟨?_, hname rfl, fun q hq => hname ?_⟩
  · rw [resolve?_append_segment hp hstep, funext (PathStep.descend?_position i)]
  · rw [Segment.step?]
    rcases hq with hnumber | htext
    · rw [hnumber, Option.bind_some, Value.key?_ofNat]
      rfl
    · rw [htext]
      rfl

/-- The last position there is, written by a number that the root holds. -/
theorem Path.positions_agree_last :
    let root : Fields := [("k".toList, .ofNat 18446744073709551615),
      ("m".toList, .object [("18446744073709551615".toList, .bool true)])]
    [Segment.property "m".toList] ≠ [] ∧ 18446744073709551615 < Text.indexBound ∧
      resolve? root [.property "k".toList] = some (.ofNat 18446744073709551615) ∧
      resolve? root ([.property "m".toList] ++ [.nested [.property "k".toList]])
        = some (.bool true) := by
  intro root
  have hp : [Segment.property "m".toList] ≠ [] := List.cons_ne_nil _ _
  have hi : 18446744073709551615 < Text.indexBound := by decide
  have hkey : resolve? root [.property "k".toList] = some (.ofNat 18446744073709551615) := rfl
  have hdigits : Text.decimal 18446744073709551615 = "18446744073709551615".toList := by decide
  refine ⟨hp, hi, hkey, ?_⟩
  rw [(positions_agree root hp hi).2.2 _ (.inl hkey)]
  show Value.at? 18446744073709551615 (.object _) = _
  rw [Value.at?, hdigits]
  rfl

end FaultPages
