import Mathlib
import ClaimCheck.Proofs.Disk.Names
import ClaimCheck.Proofs.Disk.Tree

/-!
# Walking below a root

A store on disk touches only what is below its root, so a file system is known to it from the tree
that stands there (`Anchored`).  Each path that goes on from the root by plain names leads to the
location of these names in the tree, provided that no file stands in the way (`Tree.Clear`); where a
directory on the way is missing, nothing is found.

Nothing that is done strictly below the root leads the root elsewhere: its walk passes only through
places outside, since the directory of the root was empty at the beginning
(`anchored_of_empty`, `Anchored.insert`, `Anchored.erase`).
-/

namespace ClaimCheck.Disk

/-! ## Paths that a file system takes -/

/-- Names that go on from a root: each leads to an entry, and the path is neither too long nor has a
zero byte. -/
structure Fits (root : Path) (names : List Name) : Prop where
  plain : ∀ name ∈ names, name.IsPlain ∧ name.size ≤ longestName
  noNul : (root.append names).hasNul = false
  short : (root.append names).size ≤ longestPath

/-- The sizes of more names only add up. -/
lemma le_foldl_size (names : List Name) (n : Nat) :
    n ≤ names.foldl (fun n name => n + (name.size + 1)) n := by
  induction names generalizing n with
  | nil => exact le_rfl
  | cons name names ih =>
    rw [List.foldl_cons]
    exact le_trans (Nat.le_add_right n _) (ih _)

/-- A path that is cut short has no zero byte that it did not have. -/
lemma Path.hasNul_of_append {path : Path} {names : List Name}
    (h : (path.append names).hasNul = false) : path.hasNul = false := by
  unfold hasNul at h ⊢
  rw [append_names, List.any_append, Bool.or_eq_false_iff] at h
  exact h.1

/-- A path that is cut short is not longer. -/
lemma Path.size_le_append (path : Path) (names : List Name) :
    path.size ≤ (path.append names).size := by
  refine Nat.sub_le_sub_right ?_ _
  rw [append_names]
  exact le_of_le_of_eq (le_foldl_size names _) List.foldl_append.symm

/-- A path that is taken may be cut short. -/
lemma Fits.left {root : Path} {names more : List Name} (h : Fits root (names ++ more)) :
    Fits root names := by
  have hpath : root.append (names ++ more) = (root.append names).append more :=
    (Path.append_append ..).symm
  have hnul := h.noNul
  have hshort := h.short
  rw [hpath] at hnul hshort
  exact ⟨fun name hname => h.plain name (List.mem_append_left _ hname),
    Path.hasNul_of_append hnul, (Path.size_le_append _ more).trans hshort⟩

/-- Only the first name of a path that is taken. -/
lemma Fits.container {root : Path} {c : Name} {names : List Name} (h : Fits root (c :: names)) :
    Fits root [c] := Fits.left h

namespace Machine

variable {m : Machine} {dir base : Location} {name : Name} {names : List Name}

/-! ## Single steps -/

/-- A plain name leads to an entry. -/
lemma toward_of_plain (dir : Location) (hplain : name.IsPlain) (hsize : name.size ≤ longestName) :
    toward dir name = .ok (dir ++ [name]) := by
  unfold toward
  rw [if_neg hplain.1, if_neg hplain.2, if_neg (Nat.not_lt.mpr hsize)]

/-- A name is entered when it leads to a directory. -/
lemma enter_eq_ok_iff {location : Location} :
    m.enter dir name = .ok location ↔
      toward dir name = .ok location ∧ m.tree.peek location = some .directory := by
  rw [Tree.peek_eq_directory_iff]
  unfold enter
  cases htoward : toward dir name with
  | error fault => exact iff_of_false (fun h => by cases h) fun h => by cases h.1
  | ok target =>
    simp only [bind, Except.bind, Except.ok.injEq]
    cases hget : m.tree.get? target with
    | none =>
      refine iff_of_false (fun h => by cases h) ?_
      rintro ⟨rfl, entries, hentries⟩
      rw [hget] at hentries
      cases hentries
    | some child =>
      cases child with
      | file content =>
        refine iff_of_false (fun h => by cases h) ?_
        rintro ⟨rfl, entries, hentries⟩
        rw [hget] at hentries
        cases hentries
      | directory entries =>
        constructor
        · intro h
          cases h
          exact ⟨rfl, entries, hget⟩
        · rintro ⟨rfl, -⟩
          rfl

/-- A plain name that leads nowhere is not entered. -/
lemma enter_of_none (hplain : name.IsPlain) (hsize : name.size ≤ longestName)
    (hnone : m.tree.peek (dir ++ [name]) = none) : m.enter dir name = .error .notFound := by
  have hget : m.tree.get? (dir ++ [name]) = none := Tree.peek_eq_none_iff.mp hnone
  unfold enter
  rw [toward_of_plain dir hplain hsize]
  simp only [bind, Except.bind, hget]
  rfl

/-- What stands at the location of a path is what the path leads to. -/
lemma look_eq_ok_iff {path : Path} {location : Location} {t : Tree ByteArray} :
    m.look path = .ok (location, t) ↔
      m.locate path = .ok location ∧ m.tree.get? location = some t := by
  unfold look
  cases hlocate : m.locate path with
  | error fault => exact iff_of_false (fun h => by cases h) fun h => by cases h.1
  | ok target =>
    simp only [bind, Except.bind, Except.ok.injEq]
    cases hget : m.tree.get? target with
    | none =>
      refine iff_of_false (fun h => by cases h) ?_
      rintro ⟨rfl, hsome⟩
      rw [hget] at hsome
      cases hsome
    | some child =>
      constructor
      · intro h
        cases h
        exact ⟨rfl, hget⟩
      · rintro ⟨rfl, hsome⟩
        rw [hget] at hsome
        cases hsome
        rfl

/-- A path leads nowhere when nothing stands at its location. -/
lemma look_of_none {path : Path} {location : Location} (hlocate : m.locate path = .ok location)
    (hnone : m.tree.get? location = none) : m.look path = .error .notFound := by
  unfold look
  rw [hlocate]
  simp only [bind, Except.bind, hnone]
  rfl

/-! ## Walks -/

/-- A walk of more than one name enters the first one. -/
lemma walk_cons (m : Machine) (dir : Location) (name : Name) (hnames : names ≠ []) :
    m.walk dir (name :: names) = (m.enter dir name).bind fun next => m.walk next names := by
  cases names with
  | nil => exact absurd rfl hnames
  | cons other names => rfl

/-- A walk goes on from the directory that its first part leads to. -/
lemma walk_append (hwalk : m.walk dir names = .ok base)
    (hbase : m.tree.peek base = some .directory) {rest : List Name} (hrest : rest ≠ []) :
    m.walk dir (names ++ rest) = m.walk base rest := by
  induction names generalizing dir with
  | nil =>
    cases hwalk
    rfl
  | cons name names ih =>
    rw [List.cons_append, walk_cons m dir name (by simp [hrest])]
    cases names with
    | nil =>
      have henter : m.enter dir name = .ok base := enter_eq_ok_iff.mpr ⟨hwalk, hbase⟩
      rw [henter]
      rfl
    | cons other names =>
      rw [walk_cons m dir name (List.cons_ne_nil _ _)] at hwalk
      cases henter : m.enter dir name with
      | error fault =>
        rw [henter] at hwalk
        cases hwalk
      | ok next =>
        rw [henter] at hwalk
        exact ih hwalk

/-- A walk that leads to an empty directory leads there whatever is changed strictly below it. -/
lemma walk_of_same (hwalk : m.walk dir names = .ok base)
    (hempty : m.tree.get? base = some (.directory [])) {tree : Tree ByteArray}
    (hsame : ∀ location, (base <+: location → location = base) →
      tree.peek location = m.tree.peek location) :
    ({ m with tree } : Machine).walk dir names = .ok base := by
  induction names generalizing dir with
  | nil => exact hwalk
  | cons name names ih =>
    cases names with
    | nil => exact hwalk
    | cons other names =>
      rw [walk_cons m dir name (List.cons_ne_nil _ _)] at hwalk
      rw [walk_cons _ dir name (List.cons_ne_nil _ _)]
      cases henter : m.enter dir name with
      | error fault =>
        rw [henter] at hwalk
        cases hwalk
      | ok next =>
        rw [henter] at hwalk
        obtain ⟨htoward, hnext⟩ := enter_eq_ok_iff.mp henter
        -- nothing is below the base, so the walk does not pass there
        have houtside : base <+: next → next = base := by
          rintro ⟨rest, rfl⟩
          rw [Tree.peek_append, hempty, Option.bind_some] at hnext
          cases rest with
          | nil => exact List.append_nil base
          | cons first rest => cases hnext
        have henter' : ({ m with tree } : Machine).enter dir name = .ok next :=
          enter_eq_ok_iff.mpr ⟨htoward, (hsame next houtside).trans hnext⟩
        rw [henter']
        exact ih hwalk

end Machine

/-- No file stands on the way to a location. -/
def Tree.Clear {α : Type} (t : Tree α) (names : Location) : Prop :=
  ∀ front content, front <+: names → front ≠ names → t.peek front ≠ some (.file content)

/-- No file stands on the way to where something is. -/
lemma Tree.clear_of_peek {α : Type} {t : Tree α} {names : Location} (h : t.peek names ≠ none) :
    t.Clear names := by
  rintro front content ⟨rest, rfl⟩ hne hfile
  rw [Tree.peek_append_of_file hfile (by simpa using hne)] at h
  exact h rfl

/-- No file stands on the way to an entry of a directory. -/
lemma Tree.clear_concat {α : Type} {t : Tree α} {dir : Location} (h : t.peek dir = some .directory)
    (name : Name) : t.Clear (dir ++ [name]) := by
  intro front content hfront hne hfile
  obtain ⟨rest, rfl⟩ := (List.prefix_concat_iff.mp hfront).resolve_left hne
  rcases eq_or_ne rest [] with rfl | hrest
  · rw [List.append_nil, hfile] at h
    cases h
  · rw [Tree.peek_append_of_file hfile hrest] at h
    cases h

namespace Machine

variable {m : Machine} {dir base : Location} {name : Name} {names : List Name}

/-- Plain names lead to their location where the last of them is looked for in a directory, and
nowhere if one is missing on the way. -/
lemma walk_plain (hnames : names ≠ [])
    (hplain : ∀ name ∈ names, name.IsPlain ∧ name.size ≤ longestName)
    (hdir : m.tree.peek dir = some .directory)
    (hclear : ∀ front content, front <+: names → front ≠ names →
      m.tree.peek (dir ++ front) ≠ some (.file content)) :
    m.walk dir names =
      if m.tree.peek (dir ++ names.dropLast) = some .directory then .ok (dir ++ names)
      else .error .notFound := by
  induction names generalizing dir with
  | nil => exact absurd rfl hnames
  | cons name names ih =>
    obtain ⟨hname, hsize⟩ := hplain name List.mem_cons_self
    rcases eq_or_ne names [] with rfl | hne
    · rw [List.dropLast_singleton, List.append_nil, if_pos hdir]
      exact toward_of_plain dir hname hsize
    · have hdrop : dir ++ (name :: names).dropLast = dir ++ [name] ++ names.dropLast := by
        rw [List.dropLast_cons_of_ne_nil hne, List.append_assoc]
        rfl
      have hwhole : dir ++ name :: names = dir ++ [name] ++ names := by
        rw [List.append_assoc]
        rfl
      rw [walk_cons m dir name hne, hdrop, hwhole]
      cases hpeek : m.tree.peek (dir ++ [name]) with
      | none =>
        rw [enter_of_none hname hsize hpeek, Tree.peek_append_of_none hpeek, if_neg (by simp)]
        rfl
      | some node =>
        cases node with
        | file content =>
          refine absurd hpeek (hclear [name] content (by simp) fun h => ?_)
          exact hne (List.cons.inj h).2.symm
        | directory =>
          have henter : m.enter dir name = .ok (dir ++ [name]) :=
            enter_eq_ok_iff.mpr ⟨toward_of_plain dir hname hsize, hpeek⟩
          rw [henter]
          refine ih hne (fun other hother => hplain other (List.mem_cons_of_mem _ hother)) hpeek ?_
          intro front content hstart hfront
          have hcons := hclear (name :: front) content (List.cons_prefix_cons.mpr ⟨rfl, hstart⟩)
            fun h => hfront (List.cons.inj h).2
          rwa [List.append_assoc]

/-- Where relative paths of a machine start, and where absolute ones do. -/
def origin (m : Machine) (path : Path) : Location := if path.isAbsolute then [] else m.here

end Machine

/-! ## The tree below a root -/

/-- A root leads to a base where a directory tree stands, whatever is changed strictly below the
base, and files may grow without limit. -/
structure Anchored (m : Machine) (root : Path) (base : Location) (t : Tree ByteArray) : Prop where
  leads : ∀ tree : Tree ByteArray, (∀ location, (base <+: location → location = base) →
    tree.peek location = m.tree.peek location) →
      ({ m with tree } : Machine).walk (m.origin root) root.names = .ok base
  stands : m.tree.get? base = some t
  isDirectory : t.node = .directory
  unlimited : m.sizeLimit = none

variable {m : Machine} {root : Path} {base : Location} {t : Tree ByteArray} {names : List Name}

/-- A path that leads somewhere is walked, so it is neither too long nor has a zero byte. -/
lemma walk_of_look {path : Path} (hlook : m.look path = .ok (base, t)) :
    m.walk (m.origin path) path.names = .ok base ∧ path.hasNul = false ∧
      path.size ≤ longestPath := by
  obtain ⟨hlocate, -⟩ := Machine.look_eq_ok_iff.mp hlook
  unfold Machine.locate at hlocate
  split at hlocate
  · cases hlocate
  · next hnul =>
    split at hlocate
    · cases hlocate
    · next hsize => exact ⟨hlocate, by simpa using hnul, Nat.not_lt.mp hsize⟩

/-- A root that leads to an empty directory. -/
lemma anchored_of_empty (hlook : m.look root = .ok (base, .directory []))
    (hlimit : m.sizeLimit = none) : Anchored m root base (.directory []) := by
  obtain ⟨hwalk, -⟩ := walk_of_look hlook
  obtain ⟨-, hget⟩ := Machine.look_eq_ok_iff.mp hlook
  exact ⟨fun tree hsame => Machine.walk_of_same hwalk hget hsame, hget, rfl, hlimit⟩

namespace Anchored

/-- What is seen below the base is what is seen in the tree. -/
lemma peek_append (h : Anchored m root base t) (location : Location) :
    m.tree.peek (base ++ location) = t.peek location := by
  rw [Tree.peek_append, h.stands, Option.bind_some]

/-- What stands below the base is what stands in the tree. -/
lemma get?_append (h : Anchored m root base t) (location : Location) :
    m.tree.get? (base ++ location) = t.get? location := by
  rw [Tree.get?_append, h.stands, Option.bind_some]

/-- The directory of the root is seen at the base. -/
lemma peek_base (h : Anchored m root base t) : m.tree.peek base = some .directory := by
  have hnil := h.peek_append []
  rwa [List.append_nil, Tree.peek_nil, h.isDirectory] at hnil

/-- The location of a path below the root. -/
lemma locate (h : Anchored m root base t) (hfits : Fits root names) (hnames : names ≠ [])
    (hclear : t.Clear names) :
    m.locate (root.append names) =
      if t.peek names.dropLast = some .directory then .ok (base ++ names)
      else .error .notFound := by
  have hwalk : m.walk (m.origin root) root.names = .ok base := h.leads m.tree fun _ _ => rfl
  unfold Machine.locate
  rw [if_neg (by simp [hfits.noNul]), if_neg (Nat.not_lt.mpr hfits.short)]
  change m.walk (m.origin root) (root.names ++ names) = _
  rw [Machine.walk_append hwalk h.peek_base hnames,
    Machine.walk_plain hnames hfits.plain h.peek_base, h.peek_append]
  intro front content hstart hne
  rw [h.peek_append]
  exact hclear front content hstart hne

/-- What the root itself leads to. -/
lemma look_root (h : Anchored m root base t) (hnul : root.hasNul = false)
    (hsize : root.size ≤ longestPath) : m.look root = .ok (base, t) := by
  refine Machine.look_eq_ok_iff.mpr ⟨?_, h.stands⟩
  unfold Machine.locate
  rw [if_neg (by simp [hnul]), if_neg (Nat.not_lt.mpr hsize)]
  exact h.leads m.tree fun _ _ => rfl

/-- What a path below the root leads to. -/
lemma look (h : Anchored m root base t) (hfits : Fits root names) (hnames : names ≠ [])
    (hclear : t.Clear names) :
    m.look (root.append names) =
      match t.get? names with
      | none => .error .notFound
      | some child => .ok (base ++ names, child) := by
  have hlocate := h.locate hfits hnames hclear
  have hget := h.get?_append names
  by_cases hparent : t.peek names.dropLast = some .directory
  · rw [if_pos hparent] at hlocate
    cases hnames : t.get? names with
    | none => exact Machine.look_of_none hlocate (hget.trans hnames)
    | some child => exact Machine.look_eq_ok_iff.mpr ⟨hlocate, hget.trans hnames⟩
  · -- without a directory above it, nothing is there
    have hnone : t.get? names = none := by
      rw [← Tree.peek_eq_none_iff]
      by_contra hsome
      refine hparent (Tree.peek_of_append (List.cons_ne_nil (names.getLast hnames) []) ?_)
      rwa [List.dropLast_append_getLast]
    rw [hnone]
    unfold Machine.look
    rw [hlocate, if_neg hparent]
    rfl

/-- A tree is placed where a directory waits for it and nothing is yet. -/
lemma create (h : Anchored m root base t) (hfits : Fits root names) (hnames : names ≠ [])
    (hclear : t.Clear names) (new : Tree ByteArray) :
    m.create (root.append names) new =
      if t.peek names.dropLast = some .directory then
        match t.get? names with
        | some _ => (.error .alreadyExists, m)
        | none => (.ok (), { m with tree := m.tree.insert (base ++ names) new })
      else (.error .notFound, m) := by
  unfold Machine.create
  rw [h.locate hfits hnames hclear]
  by_cases hparent : t.peek names.dropLast = some .directory
  · rw [if_pos hparent, if_pos hparent]
    have hget := h.get?_append names
    cases hnames : t.get? names <;> simp only [hget, hnames]
  · rw [if_neg hparent, if_neg hparent]

/-- Whatever is done strictly below the base leaves the root where it is. -/
lemma of_same (h : Anchored m root base t) {tree : Tree ByteArray} {t' : Tree ByteArray}
    (hsame : ∀ location, (base <+: location → location = base) →
      tree.peek location = m.tree.peek location)
    (hstands : tree.get? base = some t') (hnode : t'.node = t.node) :
    Anchored { m with tree } root base t' := by
  refine ⟨fun tree' hsame' => h.leads tree' fun location hlocation => ?_, hstands,
    hnode.trans h.isDirectory, h.unlimited⟩
  exact (hsame' location hlocation).trans (hsame location hlocation)

/-- A tree is placed below the root. -/
lemma insert (h : Anchored m root base t) (hnames : names ≠ [])
    (hparent : t.peek names.dropLast = some .directory) (new : Tree ByteArray) :
    Anchored { m with tree := m.tree.insert (base ++ names) new } root base
      (t.insert names new) := by
  obtain ⟨dir, name, rfl⟩ := (List.eq_nil_or_concat names).resolve_left hnames
  rw [List.concat_eq_append] at hparent ⊢
  rw [List.dropLast_concat] at hparent
  refine h.of_same (fun location hlocation => ?_) ?_ ?_
  · rw [← List.append_assoc, Tree.peek_insert ((h.peek_append dir).trans hparent), if_neg]
    intro hstart
    have hbase := hlocation ((List.prefix_append base dir).trans
      ((List.prefix_append _ _).trans hstart))
    have hlength := hstart.length_le
    rw [hbase] at hlength
    simp at hlength
  · rw [Tree.get?_insert_append _ _ _ (by simp), h.stands, Option.map_some]
  · unfold Tree.insert
    rw [List.getLast?_concat]
    exact Tree.node_update _ _ t

/-- A tree below the root is taken away. -/
lemma erase (h : Anchored m root base t) (hnames : names ≠ [])
    (hparent : t.peek names.dropLast = some .directory) :
    Anchored { m with tree := m.tree.erase (base ++ names) } root base (t.erase names) := by
  obtain ⟨dir, name, rfl⟩ := (List.eq_nil_or_concat names).resolve_left hnames
  rw [List.concat_eq_append] at hparent ⊢
  rw [List.dropLast_concat] at hparent
  refine h.of_same (fun location hlocation => ?_) ?_ ?_
  · rw [← List.append_assoc, Tree.peek_erase ((h.peek_append dir).trans hparent), if_neg]
    intro hstart
    have hbase := hlocation ((List.prefix_append base dir).trans
      ((List.prefix_append _ _).trans hstart))
    have hlength := hstart.length_le
    rw [hbase] at hlength
    simp at hlength
  · rw [Tree.get?_erase_append _ _ (by simp), h.stands, Option.map_some]
  · unfold Tree.erase
    rw [List.getLast?_concat]
    exact Tree.node_update _ _ t

end Anchored

end ClaimCheck.Disk
