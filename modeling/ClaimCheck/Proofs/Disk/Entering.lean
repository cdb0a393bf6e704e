import Mathlib
import ClaimCheck.Proofs.Disk.Walk

/-!
# Paths that go on from a directory

Below a directory that a path enters (`Machine.Enters`), what plain names lead to is read off the tree
alone, provided that the file system takes the whole path (`Machine.Enters.look_eq_ok_iff`).
-/

namespace ClaimCheck.Disk

/-- Names that a path goes on by, from names that it went on by before. -/
lemma Fits.right {root : Path} {names more : List Name} (h : Fits root (names ++ more)) :
    Fits (root.append names) more where
  plain name hname := h.plain name (List.mem_append_right _ hname)
  noNul := by
    rw [Path.append_append]
    exact h.noNul
  short := by
    rw [Path.append_append]
    exact h.short

/-- Names that a path goes on by behind others that it goes on by. -/
lemma Fits.append {root : Path} {names more : List Name} (h : Fits root names)
    (hmore : Fits (root.append names) more) : Fits root (names ++ more) where
  plain name hname := (List.mem_append.mp hname).elim (h.plain name) (hmore.plain name)
  noNul := by
    rw [← Path.append_append]
    exact hmore.noNul
  short := by
    rw [← Path.append_append]
    exact hmore.short

namespace Machine

variable {m : Machine} {start path : Path} {dir base location : Location} {name : Name}
  {names rest : List Name} {t : Tree ByteArray}

/-! ## Walks that lead somewhere -/

/-- A plain name that leads somewhere leads to an entry. -/
lemma eq_of_toward (hplain : name.IsPlain) (h : toward dir name = .ok location) :
    location = dir ++ [name] := by
  unfold toward at h
  rw [if_neg hplain.1, if_neg hplain.2] at h
  split at h
  · cases h
  · cases h
    rfl

/-- Plain names that lead somewhere lead to their location, through directories. -/
lemma eq_of_walk (hnames : names ≠ []) (hplain : ∀ name ∈ names, name.IsPlain)
    (hdir : m.tree.peek dir = some .directory) (h : m.walk dir names = .ok location) :
    location = dir ++ names ∧ m.tree.peek (dir ++ names.dropLast) = some .directory := by
  induction names generalizing dir with
  | nil => exact absurd rfl hnames
  | cons name names ih =>
    have hname := hplain name List.mem_cons_self
    rcases eq_or_ne names [] with rfl | hne
    · rw [List.dropLast_singleton, List.append_nil]
      exact ⟨eq_of_toward hname h, hdir⟩
    · rw [walk_cons m dir name hne] at h
      cases henter : m.enter dir name with
      | error fault =>
        rw [henter] at h
        cases h
      | ok next =>
        rw [henter] at h
        obtain ⟨htoward, hnext⟩ := enter_eq_ok_iff.mp henter
        obtain rfl := eq_of_toward hname htoward
        have hrest := ih hne (fun other hother => hplain other (List.mem_cons_of_mem _ hother))
          hnext h
        rw [List.dropLast_cons_of_ne_nil hne]
        simpa using hrest

/-- The first part of a walk that leads somewhere leads to a directory. -/
lemma exists_walk_of_append (hnames : names ≠ []) (hrest : rest ≠ [])
    (h : m.walk dir (names ++ rest) = .ok base) :
    ∃ location, m.walk dir names = .ok location ∧ m.tree.peek location = some .directory := by
  induction names generalizing dir with
  | nil => exact absurd rfl hnames
  | cons name names ih =>
    rw [List.cons_append, walk_cons m dir name (by simp [hrest])] at h
    cases henter : m.enter dir name with
    | error fault =>
      rw [henter] at h
      cases h
    | ok next =>
      rw [henter] at h
      rcases eq_or_ne names [] with rfl | hne
      · exact ⟨next, enter_eq_ok_iff.mp henter⟩
      · rw [walk_cons m dir name hne, henter]
        exact ih hne h

/-- A name that leads somewhere is not too long. -/
lemma size_le_of_toward (h : toward dir name = .ok location) : name.size ≤ longestName := by
  unfold toward at h
  split at h
  · next hself =>
    rw [hself]
    decide
  split at h
  · next hparent =>
    rw [hparent]
    decide
  split at h
  · cases h
  · next hsize => exact Nat.not_lt.mp hsize

/-- No name of a walk that leads somewhere is too long. -/
lemma size_le_of_walk (h : m.walk dir names = .ok location) :
    ∀ name ∈ names, name.size ≤ longestName := by
  induction names generalizing dir with
  | nil => simp
  | cons name names ih =>
    rcases eq_or_ne names [] with rfl | hne
    · exact List.forall_mem_singleton.mpr (size_le_of_toward h)
    · rw [walk_cons m dir name hne] at h
      cases henter : m.enter dir name with
      | error fault =>
        rw [henter] at h
        cases h
      | ok next =>
        rw [henter] at h
        exact List.forall_mem_cons.mpr ⟨size_le_of_toward (enter_eq_ok_iff.mp henter).1, ih h⟩

/-- A path that leads somewhere has no zero byte, and is as long as its names and it may be. -/
lemma sizes_of_locate (h : m.locate path = .ok location) :
    path.hasNul = false ∧ path.size ≤ longestPath ∧ ∀ name ∈ path.names, name.size ≤ longestName := by
  unfold locate at h
  split at h
  · cases h
  · next hnul =>
    split at h
    · cases h
    · next hsize =>
      exact ⟨Bool.eq_false_iff.mpr hnul, Nat.not_lt.mp hsize, size_le_of_walk h⟩

/-- A path that is too long leads nowhere. -/
lemma look_of_long (hnul : path.hasNul = false) (hlong : longestPath < path.size) :
    m.look path = .error .nameTooLong := by
  unfold look locate
  rw [if_neg (by simp [hnul]), if_pos hlong]
  rfl

/-! ## Below a directory -/

/-- A path leads to a directory. -/
structure Enters (m : Machine) (path : Path) (base : Location) : Prop where
  walk : m.walk (m.origin path) path.names = .ok base
  isDirectory : m.tree.peek base = some .directory

/-- A path that leads to a directory enters it. -/
lemma enters_of_look (hlook : m.look path = .ok (location, t)) (hdir : t.node = .directory) :
    m.Enters path location where
  walk := (walk_of_look hlook).1
  isDirectory := by
    rw [Tree.peek, (look_eq_ok_iff.mp hlook).2, Option.map_some, hdir]

namespace Enters

/-- The walk goes on from the directory that was entered. -/
lemma walk_append (h : m.Enters start base) (hnames : names ≠ []) :
    m.walk (m.origin start) (start.names ++ names) = m.walk base names :=
  Machine.walk_append h.walk h.isDirectory hnames

/-- What a path that goes on from the directory leads to is walked to from there. -/
lemma walk_of_locate (h : m.Enters start base) (hnames : names ≠ [])
    (hlocate : m.locate (start.append names) = .ok location) : m.walk base names = .ok location := by
  unfold locate at hlocate
  split at hlocate
  · cases hlocate
  · split at hlocate
    · cases hlocate
    · exact (h.walk_append hnames).symm.trans hlocate

/-- Plain names that lead somewhere below the directory fit there. -/
lemma fits_of_locate (hplain : ∀ name ∈ names, name.IsPlain)
    (hlocate : m.locate (start.append names) = .ok location) : Fits start names := by
  obtain ⟨hnul, hshort, hsizes⟩ := sizes_of_locate hlocate
  exact ⟨fun name hname => ⟨hplain name hname, hsizes name (List.mem_append_right _ hname)⟩,
    hnul, hshort⟩

/-- Plain names lead somewhere exactly if they fit and the last of them is looked for in a
directory. -/
lemma locate_eq_ok_iff (h : m.Enters start base) (hnames : names ≠ [])
    (hplain : ∀ name ∈ names, name.IsPlain) :
    m.locate (start.append names) = .ok location ↔
      Fits start names ∧ location = base ++ names ∧
        m.tree.peek (base ++ names.dropLast) = some .directory := by
  constructor
  · intro hlocate
    exact ⟨fits_of_locate hplain hlocate,
      eq_of_walk hnames hplain h.isDirectory (h.walk_of_locate hnames hlocate)⟩
  · rintro ⟨hfits, rfl, hparent⟩
    unfold locate
    rw [if_neg (by simp [hfits.noNul]), if_neg (Nat.not_lt.mpr hfits.short)]
    change m.walk (m.origin start) (start.names ++ names) = _
    rw [h.walk_append hnames, walk_plain hnames hfits.plain h.isDirectory, if_pos hparent]
    intro other content hother hne hfile
    rw [← List.dropLast_concat_getLast hnames] at hother hne
    rw [Tree.peek_of_prefix hparent ((List.prefix_concat_iff.mp hother).resolve_left hne)] at hfile
    cases hfile

/-- What plain names lead to. -/
lemma look_eq_ok_iff (h : m.Enters start base) (hnames : names ≠ [])
    (hplain : ∀ name ∈ names, name.IsPlain) :
    m.look (start.append names) = .ok (location, t) ↔
      Fits start names ∧ location = base ++ names ∧ m.tree.get? (base ++ names) = some t := by
  rw [Machine.look_eq_ok_iff, h.locate_eq_ok_iff hnames hplain]
  constructor
  · rintro ⟨⟨hfits, rfl, -⟩, hget⟩
    exact ⟨hfits, rfl, hget⟩
  · rintro ⟨hfits, rfl, hget⟩
    refine ⟨⟨hfits, rfl, ?_⟩, hget⟩
    have hsome : m.tree.peek (base ++ names.dropLast ++ [names.getLast hnames]) ≠ none := by
      rw [List.append_assoc, List.dropLast_concat_getLast, Ne, Tree.peek_eq_none_iff, hget]
      exact Option.some_ne_none _
    exact Tree.peek_of_append (List.cons_ne_nil _ _) hsome

end Enters

/-- A path whose last name is plain leads to an entry of that name. -/
lemma exists_of_locate_child (hplain : name.IsPlain)
    (hlocate : m.locate (path.child name) = .ok location) : ∃ dir, location = dir ++ [name] := by
  unfold locate at hlocate
  split at hlocate
  · cases hlocate
  · split at hlocate
    · cases hlocate
    · change m.walk (m.origin path) (path.names ++ [name]) = _ at hlocate
      rcases eq_or_ne path.names [] with hnil | hne
      · rw [hnil] at hlocate
        exact ⟨_, eq_of_toward hplain hlocate⟩
      · obtain ⟨dir, hdir, hpeek⟩ := exists_walk_of_append hne (List.cons_ne_nil name []) hlocate
        rw [Machine.walk_append hdir hpeek (List.cons_ne_nil name [])] at hlocate
        exact ⟨dir, eq_of_toward hplain hlocate⟩

/-- Names that fit lead from a directory to what stands there. -/
lemma look_append {entries : Tree.Entries ByteArray}
    (hlook : m.look path = .ok (location, .directory entries)) (hfits : Fits path names)
    (hget : (Tree.directory entries).get? names = some t) :
    m.look (path.append names) = .ok (location ++ names, t) := by
  obtain ⟨-, hdir⟩ := Machine.look_eq_ok_iff.mp hlook
  rcases eq_or_ne names [] with rfl | hne
  · rw [Tree.get?_nil, Option.some.injEq] at hget
    rw [Path.append_nil, List.append_nil, hlook, hget]
  · refine ((enters_of_look hlook rfl).look_eq_ok_iff hne fun name hname =>
      (hfits.plain name hname).1).mpr ⟨hfits, rfl, ?_⟩
    rw [Tree.get?_append, hdir, Option.bind_some, hget]

end Machine

end ClaimCheck.Disk
