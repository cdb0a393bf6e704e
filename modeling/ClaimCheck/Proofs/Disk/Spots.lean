import Mathlib
import ClaimCheck.Proofs.Disk.Walk

/-!
# Where a path leads

Without links a path leads to one location only, known from its names and from where the machine is,
whatever stands on the way (`Machine.spot`).  Nothing else is reached by a walk along the path
(`Machine.eq_spot_of_locate`).

So for each request that changes a tree it can be said of any file system what may be seen to change:
a creation fills the location of its path, which was free, a write changes a file there, and a
removal empties it with all that is below.
-/

namespace ClaimCheck.Disk

/-! ## Changes at any location -/

namespace Tree

variable {α : Type} {root t : Tree α} {location : Location}

/-- Where no directory is, no entries are changed. -/
lemma peek_update_of_ne_directory (change : Entries α → Entries α) {dir : Location}
    (hdir : root.peek dir ≠ some .directory) (location : Location) :
    (root.update change dir).peek location = root.peek location := by
  by_cases hbelow : dir <+: location
  · obtain ⟨rest, rfl⟩ := hbelow
    have hsame : (root.update change dir).get? dir = root.get? dir := by
      have hupdate := get?_update_append change root dir []
      rw [List.append_nil] at hupdate
      rw [hupdate]
      cases hget : root.get? dir with
      | none => rfl
      | some child =>
        cases child with
        | file content => rfl
        | directory entries => exact absurd (peek_eq_directory_iff.mpr ⟨entries, hget⟩) hdir
    rw [peek_append, peek_append, hsame]
  · exact peek_update_of_not_above change root hbelow

/-- A leaf that is placed where nothing is below shows at its location at most. -/
lemma peek_insert_cases (hbelow : ∀ rest ≠ [], root.peek (location ++ rest) = none)
    (hleaf : ∀ rest ≠ [], t.peek rest = none) (other : Location) :
    (root.insert location t).peek other = root.peek other ∨
      other = location ∧ (root.insert location t).peek other = some t.node := by
  rcases List.eq_nil_or_concat location with rfl | ⟨dir, name, rfl⟩
  · change t.peek other = root.peek other ∨ other = [] ∧ t.peek other = some t.node
    rcases eq_or_ne other [] with rfl | hother
    · exact .inr ⟨rfl, peek_nil t⟩
    · exact .inl ((hleaf other hother).trans (hbelow other hother).symm)
  · rw [List.concat_eq_append] at hbelow ⊢
    by_cases hdir : root.peek dir = some .directory
    · rw [peek_insert_leaf hdir hbelow hleaf]
      split
      · next h => exact .inr ⟨h, rfl⟩
      · exact .inl rfl
    · refine .inl ?_
      unfold insert
      rw [List.getLast?_concat, List.dropLast_concat]
      exact peek_update_of_ne_directory _ hdir other

/-- What is taken away was at the location or below it. -/
lemma peek_erase_cases (root : Tree α) (location other : Location) :
    (root.erase location).peek other = root.peek other ∨
      location <+: other ∧ (root.erase location).peek other = none := by
  rcases List.eq_nil_or_concat location with rfl | ⟨dir, name, rfl⟩
  · exact .inl rfl
  · rw [List.concat_eq_append]
    by_cases hdir : root.peek dir = some .directory
    · rw [peek_erase hdir]
      split
      · next h => exact .inr ⟨h, rfl⟩
      · exact .inl rfl
    · refine .inl ?_
      unfold erase
      rw [List.getLast?_concat, List.dropLast_concat]
      exact peek_update_of_ne_directory _ hdir other

end Tree

namespace Machine

variable {m : Machine} {dir location : Location} {name : Name} {names rest : List Name} {path : Path}

/-! ## Locations of paths -/

/-- The location that names lead to from a directory. -/
def follow : Location → List Name → Location
  | dir, [] => dir
  | dir, name :: rest =>
    follow (if name = .self then dir else if name = .parent then dir.dropLast else dir ++ [name]) rest

/-- The location of a path. -/
def spot (m : Machine) (path : Path) : Location := follow (m.origin path) path.names

/-- Names are followed one part after the other. -/
lemma follow_append (dir : Location) (names rest : List Name) :
    follow dir (names ++ rest) = follow (follow dir names) rest := by
  induction names generalizing dir with
  | nil => rfl
  | cons name names ih => exact ih _

/-- Plain names lead down. -/
lemma follow_of_plain (dir : Location) (hplain : ∀ name ∈ names, name.IsPlain) :
    follow dir names = dir ++ names := by
  induction names generalizing dir with
  | nil => exact (List.append_nil dir).symm
  | cons name names ih =>
    obtain ⟨hname, hplain⟩ := List.forall_mem_cons.mp hplain
    rw [follow, if_neg hname.1, if_neg hname.2, ih _ hplain, List.append_assoc,
      List.singleton_append]

/-- A path that goes on from another by plain names leads below it. -/
lemma spot_append (m : Machine) (root : Path) (hplain : ∀ name ∈ names, name.IsPlain) :
    m.spot (root.append names) = m.spot root ++ names := by
  change follow (m.origin root) (root.names ++ names) = _
  rw [follow_append, follow_of_plain _ hplain]
  rfl

/-- A single name that leads somewhere leads where it is followed to. -/
lemma eq_follow_of_toward (h : toward dir name = .ok location) : location = follow dir [name] := by
  unfold toward at h
  rw [follow, follow]
  split at h
  · next hself =>
    cases h
    rw [if_pos hself]
  split at h
  · next hself hparent =>
    cases h
    rw [if_neg hself, if_pos hparent]
  split at h
  · cases h
  · next hself hparent _ =>
    cases h
    rw [if_neg hself, if_neg hparent]

/-- A walk that leads somewhere leads where its names are followed to. -/
lemma eq_follow_of_walk (h : m.walk dir names = .ok location) : location = follow dir names := by
  induction names generalizing dir with
  | nil =>
    cases h
    rfl
  | cons name names ih =>
    rcases eq_or_ne names [] with rfl | hnames
    · exact eq_follow_of_toward h
    · rw [walk_cons m dir name hnames] at h
      cases henter : m.enter dir name with
      | error fault =>
        rw [henter] at h
        cases h
      | ok next =>
        rw [henter] at h
        obtain ⟨htoward, -⟩ := enter_eq_ok_iff.mp henter
        rw [ih h, eq_follow_of_toward htoward]
        rfl

/-- A path leads to its location or nowhere. -/
lemma eq_spot_of_locate (h : m.locate path = .ok location) : location = m.spot path := by
  unfold locate at h
  split at h
  · cases h
  · split at h
    · cases h
    · exact eq_follow_of_walk h

/-! ## What requests change -/

/-- No request leads the machine elsewhere. -/
lemma here_answer (r : Request) (m : Machine) : (answer r m).2.here = m.here := by
  have hcreate : ∀ path t, (m.create path t).2.here = m.here := by
    intro path t
    unfold create
    split
    · rfl
    · split <;> rfl
  have htake : ∀ path against, (m.takeAway path against).2.here = m.here := by
    intro path against
    unfold takeAway
    split
    · rfl
    · split <;> rfl
  cases r with
  | makeDirectory path => exact hcreate path _
  | createNew path => exact hcreate path _
  | write path data =>
    change (m.write path data).2.here = m.here
    unfold write
    split
    · rfl
    · rfl
    · split
      · rfl
      · split <;> rfl
  | remove path => exact htake path _
  | removeDirectory path => exact htake path _
  | removeTree path => exact htake path _
  | _ => rfl

/-- Paths lead where they did as long as the machine is where it was. -/
lemma spot_of_here {m' : Machine} (h : m'.here = m.here) (path : Path) : m'.spot path = m.spot path := by
  unfold spot origin
  rw [h]

/-- What is created succeeds only where nothing was. -/
lemma peek_spot_of_create {t : Tree ByteArray} (h : (m.create path t).1 = .ok ()) :
    m.tree.peek (m.spot path) = none := by
  unfold create at h
  split at h
  · cases h
  · next location hlocate =>
    obtain rfl := eq_spot_of_locate hlocate
    split at h
    · cases h
    · next hnone => exact Tree.peek_eq_none_iff.mpr hnone

/-- A creation fills a location where nothing was, and changes nothing else. -/
lemma peek_create (m : Machine) (path : Path) {t : Tree ByteArray}
    (hleaf : ∀ rest ≠ [], t.peek rest = none) (location : Location) :
    (m.create path t).2.tree.peek location = m.tree.peek location ∨
      location = m.spot path ∧ m.tree.peek location = none ∧
        (m.create path t).2.tree.peek location = some t.node := by
  unfold create
  split
  · exact .inl rfl
  · next target hlocate =>
    obtain rfl := eq_spot_of_locate hlocate
    split
    · exact .inl rfl
    · next hget =>
      have hnone : m.tree.peek (m.spot path) = none := Tree.peek_eq_none_iff.mpr hget
      rcases Tree.peek_insert_cases (fun rest _ => Tree.peek_append_of_none hnone rest) hleaf
        location with hsame | ⟨rfl, hfilled⟩
      · exact .inl hsame
      · exact .inr ⟨rfl, hnone, hfilled⟩

/-- A write changes the file that is there, and nothing else. -/
lemma peek_write (m : Machine) (path : Path) (data : ByteArray) (location : Location) :
    (m.write path data).2.tree.peek location = m.tree.peek location ∨
      location = m.spot path ∧ (∃ old, m.tree.peek location = some (.file old)) ∧
        ∃ new, (m.write path data).2.tree.peek location = some (.file new) := by
  unfold write
  split
  · exact .inl rfl
  · exact .inl rfl
  · next target old hlook =>
    obtain ⟨hlocate, hget⟩ := look_eq_ok_iff.mp hlook
    obtain rfl := eq_spot_of_locate hlocate
    have hfile : m.tree.peek (m.spot path) = some (.file old) := Tree.peek_eq_file_iff.mpr hget
    have hinsert : ∀ new : ByteArray,
        (m.tree.insert (m.spot path) (.file new)).peek location = m.tree.peek location ∨
          location = m.spot path ∧ (∃ old, m.tree.peek location = some (.file old)) ∧
            ∃ new', (m.tree.insert (m.spot path) (.file new)).peek location =
              some (.file new') := by
      intro new
      rcases Tree.peek_insert_cases (fun rest => Tree.peek_append_of_file hfile)
        (fun rest => Tree.peek_file_of_ne new) location with hsame | ⟨rfl, hfilled⟩
      · exact .inl hsame
      · exact .inr ⟨rfl, ⟨old, hfile⟩, new, hfilled⟩
    split
    · exact hinsert data
    · split
      · exact hinsert data
      · exact hinsert _

/-- A removal empties the location of its path with all that is below, and changes nothing else. -/
lemma peek_takeAway (m : Machine) (path : Path) (against : Tree ByteArray → Option Fault)
    (location : Location) :
    (m.takeAway path against).2.tree.peek location = m.tree.peek location ∨
      m.spot path <+: location ∧ (m.takeAway path against).2.tree.peek location = none ∧
        ∃ t, m.tree.get? (m.spot path) = some t ∧ against t = none := by
  unfold takeAway
  split
  · exact .inl rfl
  · next target t hlook =>
    obtain ⟨hlocate, hget⟩ := look_eq_ok_iff.mp hlook
    obtain rfl := eq_spot_of_locate hlocate
    split
    · exact .inl rfl
    · next hagainst =>
      rcases Tree.peek_erase_cases m.tree (m.spot path) location with hsame | ⟨hbelow, hnone⟩
      · exact .inl hsame
      · exact .inr ⟨hbelow, hnone, t, hget, hagainst⟩

/-- A file is removed, and nothing else. -/
lemma peek_remove (m : Machine) (path : Path) (location : Location) :
    (m.takeAway path againstRemove).2.tree.peek location = m.tree.peek location ∨
      location = m.spot path ∧ (∃ content, m.tree.peek location = some (.file content)) ∧
        (m.takeAway path againstRemove).2.tree.peek location = none := by
  rcases peek_takeAway m path againstRemove location with hsame | ⟨⟨rest, rfl⟩, hnone, t, hget, ht⟩
  · exact .inl hsame
  · cases t with
    | directory entries => cases ht
    | file content =>
      have hfile : m.tree.peek (m.spot path) = some (.file content) :=
        Tree.peek_eq_file_iff.mpr hget
      rcases eq_or_ne rest [] with rfl | hrest
      · rw [List.append_nil] at hnone ⊢
        exact .inr ⟨rfl, ⟨content, hfile⟩, hnone⟩
      · exact .inl (hnone.trans (Tree.peek_append_of_file hfile hrest).symm)

/-- A directory without entries is removed, and nothing else. -/
lemma peek_removeDirectory (m : Machine) (path : Path) (location : Location) :
    (m.takeAway path againstRemoveDirectory).2.tree.peek location = m.tree.peek location ∨
      location = m.spot path ∧ m.tree.peek location = some .directory ∧
        (m.takeAway path againstRemoveDirectory).2.tree.peek location = none := by
  rcases peek_takeAway m path againstRemoveDirectory location with
    hsame | ⟨⟨rest, rfl⟩, hnone, t, hget, ht⟩
  · exact .inl hsame
  · cases t with
    | file content => cases ht
    | directory entries =>
      cases entries with
      | cons entry entries => cases ht
      | nil =>
        rcases eq_or_ne rest [] with rfl | hrest
        · rw [List.append_nil] at hnone ⊢
          exact .inr ⟨rfl, Tree.peek_eq_directory_iff.mpr ⟨[], hget⟩, hnone⟩
        · refine .inl (hnone.trans ?_)
          rw [Tree.peek_append, hget, Option.bind_some]
          exact (Tree.peek_empty_of_ne hrest).symm

end Machine

end ClaimCheck.Disk
