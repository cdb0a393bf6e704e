import Mathlib
import ClaimCheck.Proofs.Disk.Growth

/-!
# Directories that are left empty

With a file goes each directory below the top one of which the only entry goes (`Tree.GoesWith`): the
directories above the file, from the innermost on, as far as nothing else is in them.

Removing directories one after the other takes away nothing else (`Machine.HasFile.prunes`).  It stops
before they are all gone only where the path of the top one leads through one of them
(`Machine.Passes`), as a path can that goes back up: when that one is gone, those above it are not found
by their paths any more (`Machine.HasFile.prefix_of_stopped`).
-/

namespace ClaimCheck.Disk

open Store

/-! ## What goes with a file -/

namespace Tree

variable {α : Type} {t root : Tree α} {names top dir rest location : Location} {name last : Name}
  {content : α}

/-- What goes with a file: the file, and every directory but the top one of which the only entry
goes. -/
inductive GoesWith (t : Tree α) (names : Location) : Location → Prop
  | self : GoesWith t names names
  | above {dir : Location} {name : Name} (hdir : dir ≠ [])
    (hgoes : GoesWith t names (dir ++ [name]))
    (honly : ∀ other, t.peek (dir ++ [other]) ≠ none → other = name) : GoesWith t names dir

namespace GoesWith

/-- What goes with a file is on the way to it. -/
lemma isPrefix (h : t.GoesWith names dir) : dir <+: names := by
  induction h with
  | self => exact List.prefix_rfl
  | above _ _ _ ih => exact (List.prefix_append _ _).trans ih

/-- The top directory does not go with a file. -/
lemma ne_nil (h : t.GoesWith names dir) (hnames : names ≠ []) : dir ≠ [] := by
  cases h with
  | self => exact hnames
  | above hdir _ _ => exact hdir

/-- What is between a directory that goes and the file goes too. -/
lemma between (h : t.GoesWith names dir) (hdir : dir <+: rest) (hrest : rest <+: names) :
    t.GoesWith names rest := by
  induction h with
  | self =>
    rw [hrest.eq_of_length_le hdir.length_le]
    exact .self
  | @above dir name hne hgoes honly ih =>
    rcases eq_or_ne dir rest with rfl | hlonger
    · exact .above hne hgoes honly
    · have hlength : (dir ++ [name]).length ≤ rest.length := by
        rw [List.length_append, List.length_singleton]
        exact lt_of_le_of_ne hdir.length_le fun heq => hlonger (hdir.eq_of_length heq)
      exact ih (List.prefix_of_prefix_length_le hgoes.isPrefix hrest hlength)

/-- All that is seen below a directory that goes with a file goes too. -/
lemma append (h : t.GoesWith names dir) (hfile : t.peek names = some (.file content))
    (hrest : t.peek (dir ++ rest) ≠ none) : t.GoesWith names (dir ++ rest) := by
  induction h generalizing rest with
  | self =>
    have hnil : rest = [] := by
      by_contra hne
      exact hrest (peek_append_of_file hfile hne)
    rw [hnil, List.append_nil]
    exact .self
  | @above dir name hne hgoes honly ih =>
    cases rest with
    | nil =>
      rw [List.append_nil]
      exact .above hne hgoes honly
    | cons other rest =>
      have hentry : t.peek (dir ++ [other]) ≠ none := by
        intro hnone
        rw [List.append_cons] at hrest
        exact hrest (peek_append_of_none hnone rest)
      obtain rfl := honly other hentry
      rw [List.append_cons] at hrest ⊢
      exact ih hrest

/-- What goes with a file is the file or a directory. -/
lemma eq_of_peek (h : t.GoesWith names dir) (hfile : t.peek names = some (.file content))
    {other : α} (hother : t.peek dir = some (.file other)) : dir = names := by
  obtain ⟨rest, hrest⟩ := h.isPrefix
  by_contra hne
  have hbelow : rest ≠ [] := by
    rintro rfl
    exact hne (by rw [← hrest, List.append_nil])
  have hnone := peek_append_of_file hother hbelow
  rw [hrest, hfile] at hnone
  cases hnone

/-- A directory above what goes with a file is seen. -/
lemma peek_dropLast (h : t.GoesWith names (dir ++ [name]))
    (hfile : t.peek names = some (.file content)) : t.peek dir = some .directory := by
  obtain ⟨rest, hrest⟩ := h.isPrefix
  have hbelow : t.peek (dir ++ ([name] ++ rest)) ≠ none := by
    rw [← List.append_assoc, hrest, hfile]
    exact Option.some_ne_none _
  exact peek_of_append (List.cons_ne_nil name rest) hbelow

/-- What goes with a file is not seen any more when it is taken away, and all else stays. -/
lemma peek_erase (h : t.GoesWith names top) (hnames : names ≠ [])
    (hfile : t.peek names = some (.file content)) (other : Location) :
    (t.erase top).peek other = if top <+: other then none else t.peek other := by
  obtain ⟨dir, name, rfl⟩ := (List.eq_nil_or_concat top).resolve_left (h.ne_nil hnames)
  rw [List.concat_eq_append] at *
  exact Tree.peek_erase (h.peek_dropLast hfile) name other

/-- The files that are left when something that goes with a file is taken away. -/
lemma peek_erase_eq_file_iff (h : t.GoesWith names top) (hnames : names ≠ [])
    (hfile : t.peek names = some (.file content)) {other : Location} {content' : α} :
    (t.erase top).peek other = some (.file content') ↔
      other ≠ names ∧ t.peek other = some (.file content') := by
  rw [h.peek_erase hnames hfile]
  split
  · next hbelow =>
    obtain ⟨rest, rfl⟩ := hbelow
    refine iff_of_false (Option.some_ne_none _).symm fun ⟨hne, hother⟩ => hne ?_
    refine (h.append hfile ?_).eq_of_peek hfile hother
    rw [hother]
    exact Option.some_ne_none _
  · next hbelow =>
    refine (and_iff_right ?_).symm
    rintro rfl
    exact hbelow h.isPrefix

/-- A directory that goes with a file has no entry but the one on the way to it. -/
lemma eq_of_only (h : t.GoesWith names dir) (hlast : dir ++ [last] <+: names) :
    ∀ other, t.peek (dir ++ [other]) ≠ none → other = last := by
  cases h with
  | self => simpa using hlast.length_le
  | @above _ name _ hgoes honly =>
    have hsame : dir ++ [name] <+: dir ++ [last] :=
      List.prefix_of_prefix_length_le hgoes.isPrefix hlast (by simp)
    obtain rfl : name = last := by simpa using hsame
    exact honly

/-- A directory goes with a file when its single entry does. -/
lemma single {child : Tree α} (hgoes : t.GoesWith names (dir ++ [name])) (hdir : dir ≠ [])
    (hsingle : t.get? dir = some (.directory [(name, child)])) : t.GoesWith names dir := by
  refine .above hdir hgoes fun other hother => ?_
  by_contra hne
  rw [peek_append, hsingle, Option.bind_some, peek, get?_directory_cons,
    child?_cons, if_neg (Ne.symm hne)] at hother
  exact hother rfl

end GoesWith

/-- Whatever was changed in the entry of a name is gone with the entry. -/
lemma drop_map (change : Tree α → Tree α) (entries : Entries α) (name : Name) :
    drop name (entries.map fun entry =>
      if entry.1 = name then (entry.1, change entry.2) else entry) = drop name entries := by
  unfold drop
  induction entries with
  | nil => rfl
  | cons entry entries ih =>
    rw [List.map_cons, List.filter_cons, List.filter_cons, ih]
    by_cases h : entry.1 = name <;> simp [h]

/-- Whatever was changed below an entry is gone with the entry. -/
lemma update_drop_update (change : Entries α → Entries α) (root : Tree α) (dir rest : Location)
    (name : Name) :
    (root.update change (dir ++ name :: rest)).update (drop name) dir =
      root.update (drop name) dir := by
  induction dir generalizing root with
  | nil =>
    cases root with
    | file content => rfl
    | directory entries => exact congrArg directory (drop_map (update change rest) entries name)
  | cons other dir ih =>
    cases root with
    | file content => rfl
    | directory entries =>
      rw [List.cons_append, update, update, update, List.map_map]
      congr 1
      refine List.map_congr_left fun entry _ => ?_
      dsimp only [Function.comp_apply]
      by_cases h : entry.1 = other
      · simp only [if_pos h, ih]
      · simp only [if_neg h]

/-- What was taken away from a directory is gone with the directory. -/
lemma erase_concat_erase (root : Tree α) (hlocation : location ≠ []) (name : Name) :
    (root.erase (location ++ [name])).erase location = root.erase location := by
  obtain ⟨dir, last, rfl⟩ := (List.eq_nil_or_concat location).resolve_left hlocation
  rw [List.concat_eq_append]
  unfold erase
  simp only [List.getLast?_concat, List.dropLast_concat]
  exact update_drop_update (drop name) root dir [] last

end Tree

/-! ## Ways that paths lead -/

namespace Machine

variable {m : Machine} {path : Path} {dir base location : Location} {front names : List Name}

/-- A path leads through a location, or to it. -/
def Passes (m : Machine) (path : Path) (location : Location) : Prop :=
  ∃ front ≠ [], front <+: path.names ∧ m.spot ⟨path.isAbsolute, front⟩ = location

/-- A walk leads where it did when nothing has changed that it leads through. -/
lemma walk_of_passed {tree : Tree ByteArray} (hwalk : m.walk dir names = .ok base)
    (hsame : ∀ front ≠ [], front <+: names →
      tree.peek (follow dir front) = m.tree.peek (follow dir front)) :
    ({ m with tree } : Machine).walk dir names = .ok base := by
  induction names generalizing dir with
  | nil => exact hwalk
  | cons name names ih =>
    rcases eq_or_ne names [] with rfl | hne
    · exact hwalk
    · rw [walk_cons _ _ _ hne] at hwalk ⊢
      cases henter : m.enter dir name with
      | error fault =>
        rw [henter] at hwalk
        cases hwalk
      | ok next =>
        rw [henter] at hwalk
        obtain ⟨htoward, hnext⟩ := enter_eq_ok_iff.mp henter
        obtain rfl := eq_follow_of_toward htoward
        have hfirst := hsame [name] (List.cons_ne_nil _ _) (by simp)
        have henter' : ({ m with tree } : Machine).enter dir name = .ok (follow dir [name]) :=
          enter_eq_ok_iff.mpr ⟨htoward, hfirst.trans hnext⟩
        rw [henter']
        exact ih hwalk fun front _ hstart =>
          hsame (name :: front) (List.cons_ne_nil _ _) (List.cons_prefix_cons.mpr ⟨rfl, hstart⟩)

/-- Names that do not lead back up lead down. -/
lemma prefix_follow (hup : Name.parent ∉ names) (dir : Location) : dir <+: follow dir names := by
  induction names generalizing dir with
  | nil => exact List.prefix_rfl
  | cons name names ih =>
    rw [List.mem_cons, not_or] at hup
    rw [follow, if_neg (Ne.symm hup.1)]
    split
    · exact ih hup.2 dir
    · exact (List.prefix_append _ _).trans (ih hup.2 _)

/-- A path that does not lead back up leads through nothing that is below its end. -/
lemma not_passes_of_not_mem (hup : Name.parent ∉ path.names) (hdir : dir ≠ []) :
    ¬m.Passes path (m.spot path ++ dir) := by
  rintro ⟨front, -, ⟨rest, hrest⟩, hspot⟩
  have hrestup : Name.parent ∉ rest := fun hmem =>
    hup (hrest ▸ List.mem_append_right front hmem)
  have hdown : m.spot ⟨path.isAbsolute, front⟩ <+: m.spot path := by
    unfold spot
    rw [← hrest, follow_append]
    exact prefix_follow hrestup _
  rw [hspot] at hdown
  exact hdir (by simpa using hdown.length_le)

/-! ## What is left -/

/-- The machine when what stands at a location is taken away. -/
def without (m : Machine) (location : Location) : Machine :=
  { m with tree := m.tree.erase location }

/-- No directory is removed above what was taken away last: there is none but the top one, or no empty
one is found there. -/
def Stops (m : Machine) (path : Path) (top : Location) : Prop :=
  top.dropLast = [] ∨ ∀ found, m.look (path.append top.dropLast) ≠ .ok (found, .directory [])

/-- A file stands where plain names lead from the directory that a path leads to. -/
structure HasFile (m : Machine) (path : Path) (location : Location) (t : Tree ByteArray)
    (names : Location) (data : ByteArray) : Prop where
  look : m.look path = .ok (location, t)
  file : t.get? names = some (.file data)
  isDirectory : t.node = .directory
  fits : Fits path names

/-- What is left when a file was deleted: the directory that it was below, and all else but what goes
with the file. -/
structure Prunes (m m' : Machine) (location : Location) (t : Tree ByteArray) (names : Location) :
    Prop where
  here : m'.here = m.here
  sizeLimit : m'.sizeLimit = m.sizeLimit
  container : m'.tree.peek location = some .directory
  file : m'.tree.peek (location ++ names) = none
  only : ∀ other, m'.tree.peek other = m.tree.peek other ∨
    m'.tree.peek other = none ∧ ∃ dir, t.GoesWith names dir ∧ other = location ++ dir

namespace HasFile

variable {t : Tree ByteArray} {top way : Location} {last : Name} {data : ByteArray}

/-- A file is not the directory that it is below. -/
lemma ne_nil (h : m.HasFile path location t names data) : names ≠ [] := by
  rintro rfl
  have hfile := h.file
  rw [Tree.get?_nil, Option.some.injEq] at hfile
  have hnode := h.isDirectory
  rw [hfile] at hnode
  cases hnode

/-- The file is seen. -/
lemma peek_file (h : m.HasFile path location t names data) :
    t.peek names = some (.file data) := Tree.peek_eq_file_iff.mpr h.file

/-- The path leads to the directory. -/
lemma spot_eq (h : m.HasFile path location t names data) : m.spot path = location :=
  (eq_spot_of_locate (look_eq_ok_iff.mp h.look).1).symm

/-- What is seen below the directory. -/
lemma peek_append (h : m.HasFile path location t names data) (rest : Location) :
    m.tree.peek (location ++ rest) = t.peek rest := by
  rw [Tree.peek_append, (look_eq_ok_iff.mp h.look).2, Option.bind_some]

/-- The path leads to a directory. -/
lemma enters (h : m.HasFile path location t names data) : m.Enters path location :=
  enters_of_look h.look h.isDirectory

/-- What is seen when something that goes with the file is taken away. -/
lemma peek_without (h : m.HasFile path location t names data) (htop : t.GoesWith names top)
    (other : Location) :
    (m.without (location ++ top)).tree.peek other =
      if location ++ top <+: other then none else m.tree.peek other := by
  obtain ⟨dir, name, rfl⟩ :=
    (List.eq_nil_or_concat top).resolve_left (htop.ne_nil h.ne_nil)
  rw [List.concat_eq_append] at *
  have hdir : m.tree.peek (location ++ dir) = some .directory := by
    rw [h.peek_append, htop.peek_dropLast h.peek_file]
  unfold without
  rw [← List.append_assoc]
  exact Tree.peek_erase hdir name other

/-- Only what goes with the file is taken away. -/
lemma prunes (h : m.HasFile path location t names data) (htop : t.GoesWith names top) :
    m.Prunes (m.without (location ++ top)) location t names where
  here := rfl
  sizeLimit := rfl
  container := by
    have hlong : ¬location ++ top <+: location := fun hstart =>
      htop.ne_nil h.ne_nil (by simpa using hstart.length_le)
    rw [h.peek_without htop, if_neg hlong, h.enters.isDirectory]
  file := by
    rw [h.peek_without htop, if_pos ((List.prefix_append_right_inj _).mpr htop.isPrefix)]
  only other := by
    rw [h.peek_without htop]
    split
    · next hbelow =>
      obtain ⟨rest, rfl⟩ := hbelow
      rw [List.append_assoc]
      cases hpeek : t.peek (top ++ rest) with
      | none =>
        left
        rw [h.peek_append, hpeek]
      | some node =>
        right
        refine ⟨rfl, top ++ rest, htop.append h.peek_file ?_, rfl⟩
        rw [hpeek]
        exact Option.some_ne_none node
    · exact .inl rfl

/-- Where the path leads through nothing that goes with the file, it still leads to the directory
when some of this is taken away. -/
lemma enters_without (h : m.HasFile path location t names data) (htop : t.GoesWith names top)
    (hpasses : ∀ dir, t.GoesWith names dir → ¬m.Passes path (location ++ dir)) :
    (m.without (location ++ top)).Enters path location where
  walk := by
    obtain ⟨hwalk, -⟩ := walk_of_look h.look
    refine walk_of_passed hwalk fun front hfront hstart => ?_
    refine ((h.prunes htop).only _).resolve_right ?_
    rintro ⟨-, dir, hdir, heq⟩
    exact hpasses dir hdir ⟨front, hfront, hstart, heq⟩
  isDirectory := (h.prunes htop).container

/-- The path still leads to the directory, which holds what is left. -/
lemma look_without (h : m.HasFile path location t names data)
    (htop : t.GoesWith names top)
    (hpasses : ∀ dir, t.GoesWith names dir → ¬m.Passes path (location ++ dir)) :
    (m.without (location ++ top)).look path = .ok (location, t.erase top) := by
  obtain ⟨-, hnul, hshort⟩ := walk_of_look h.look
  refine look_eq_ok_iff.mpr ⟨?_, ?_⟩
  · unfold locate
    rw [hnul, if_neg Bool.false_ne_true, if_neg (Nat.not_lt.mpr hshort)]
    exact (h.enters_without htop hpasses).walk
  · unfold without
    rw [Tree.get?_erase_append _ _ (htop.ne_nil h.ne_nil), (look_eq_ok_iff.mp h.look).2,
      Option.map_some]

/-! ## Removing directories -/

/-- A directory without entries is left when the only entry is taken away. -/
lemma get?_without_eq_empty_iff (h : m.HasFile path location t names data)
    (hgoes : t.GoesWith names (way ++ [last])) :
    (m.without (location ++ (way ++ [last]))).tree.get? (location ++ way) = some (.directory []) ↔
      ∀ other, t.peek (way ++ [other]) ≠ none → other = last := by
  have hlong : ¬location ++ (way ++ [last]) <+: location ++ way := fun hstart => by
    simpa using hstart.length_le
  have hdir : (m.without (location ++ (way ++ [last]))).tree.peek (location ++ way) =
      some .directory := by
    rw [h.peek_without hgoes, if_neg hlong, h.peek_append, hgoes.peek_dropLast h.peek_file]
  obtain ⟨entries, hentries⟩ := Tree.peek_eq_directory_iff.mp hdir
  have hentry : ∀ other, (m.without (location ++ (way ++ [last]))).tree.peek
      (location ++ way ++ [other]) = if other = last then none else t.peek (way ++ [other]) := by
    intro other
    have hiff : location ++ (way ++ [last]) <+: location ++ (way ++ [other]) ↔ other = last := by
      rw [List.prefix_append_right_inj, List.prefix_append_right_inj, List.cons_prefix_cons]
      simp [eq_comm]
    rw [List.append_assoc, h.peek_without hgoes, h.peek_append]
    simp only [hiff]
  rw [hentries, Option.some.injEq, Tree.directory.injEq, Tree.entries_eq_nil_iff hentries]
  simp only [hentry]
  refine forall_congr' fun other => ?_
  by_cases hother : other = last
  · simp [hother]
  · simp [hother]

/-- Directories are removed as long as they are left empty and their paths lead to them. -/
lemma exists_prune (h : m.HasFile path location t names data)
    (hgoes : t.GoesWith names (way ++ [last])) :
    ∃ top, t.GoesWith names top ∧
      (m.without (location ++ (way ++ [last]))).run (prune path way.reverse) =
        ((), m.without (location ++ top)) ∧
      (m.without (location ++ top)).Stops path top := by
  induction way using List.reverseRecOn generalizing last with
  | nil => exact ⟨[last], hgoes, rfl, .inl rfl⟩
  | append_singleton way name ih =>
    have hplain : ∀ other ∈ way ++ [name], other.IsPlain := fun other hother =>
      (h.fits.plain other (hgoes.isPrefix.subset (List.mem_append_left _ hother))).1
    rw [List.reverse_append, List.reverse_singleton, List.singleton_append, run_prune_cons,
      List.reverse_cons, List.reverse_reverse]
    -- unless an empty directory is found there, it stays
    by_cases hempty : ∃ found, (m.without (location ++ (way ++ [name] ++ [last]))).look
        (path.append (way ++ [name])) = .ok (found, .directory [])
    · obtain ⟨found, hlook⟩ := hempty
      obtain ⟨hlocate, hget⟩ := look_eq_ok_iff.mp hlook
      have hspot : m.spot (path.append (way ++ [name])) = location ++ (way ++ [name]) := by
        rw [spot_append m path hplain, h.spot_eq]
      obtain rfl : found = location ++ (way ++ [name]) := (eq_spot_of_locate hlocate).trans hspot
      have honly := (h.get?_without_eq_empty_iff hgoes).mp hget
      have hremove : (m.without (location ++ (way ++ [name] ++ [last]))).takeAway
          (path.append (way ++ [name])) againstRemoveDirectory =
            (.ok (), m.without (location ++ (way ++ [name]))) := by
        unfold takeAway
        rw [hlook]
        unfold without
        dsimp only [againstRemoveDirectory]
        rw [← List.append_assoc location, Tree.erase_concat_erase m.tree (by simp)]
      rw [hremove]
      exact ih (.above (by simp) hgoes honly)
    · refine ⟨way ++ [name] ++ [last], hgoes, ?_, .inr ?_⟩
      · have hrefuse : ∃ fault, (m.without (location ++ (way ++ [name] ++ [last]))).takeAway
            (path.append (way ++ [name])) againstRemoveDirectory =
              (.error fault, m.without (location ++ (way ++ [name] ++ [last]))) := by
          unfold takeAway
          rcases hlook : (m.without (location ++ (way ++ [name] ++ [last]))).look
            (path.append (way ++ [name])) with fault | ⟨found, content | _ | entry⟩
          · exact ⟨fault, rfl⟩
          · exact ⟨_, rfl⟩
          · exact absurd ⟨found, hlook⟩ hempty
          · exact ⟨_, rfl⟩
        obtain ⟨fault, hrefuse⟩ := hrefuse
        rw [hrefuse]
      · rw [List.dropLast_concat]
        exact not_exists.mp hempty

/-- Where the path leads through nothing that goes with the file, directories are removed up to one
that does not go. -/
lemma prefix_of_stopped (h : m.HasFile path location t names data) (htop : t.GoesWith names top)
    (hpasses : ∀ dir, t.GoesWith names dir → ¬m.Passes path (location ++ dir))
    (hstop : (m.without (location ++ top)).Stops path top)
    (hdir : t.GoesWith names dir) : top <+: dir := by
  rcases List.prefix_or_prefix_of_prefix htop.isPrefix hdir.isPrefix with habove | hbelow
  · exact habove
  obtain ⟨way, last, rfl⟩ :=
    (List.eq_nil_or_concat top).resolve_left (htop.ne_nil h.ne_nil)
  rw [List.concat_eq_append] at *
  unfold Stops at hstop
  rw [List.dropLast_concat] at hstop
  by_contra hout
  have hway : dir <+: way := (List.prefix_concat_iff.mp hbelow).resolve_left fun heq =>
    hout (heq ▸ List.prefix_rfl)
  have hnames : way <+: names := (List.prefix_append _ _).trans htop.isPrefix
  have hne : way ≠ [] := by
    rintro rfl
    exact hdir.ne_nil h.ne_nil (List.prefix_nil.mp hway)
  -- the directory that was tried last goes with the file too, so it is empty and was found
  have honly := (hdir.between hway hnames).eq_of_only htop.isPrefix
  have hfits : Fits path way := by
    obtain ⟨rest, rfl⟩ := hnames
    exact h.fits.left
  have hlook := ((h.enters_without htop hpasses).look_eq_ok_iff hne
    fun name hname => (hfits.plain name hname).1).mpr
      ⟨hfits, rfl, (h.get?_without_eq_empty_iff htop).mpr honly⟩
  exact (hstop.resolve_left hne) _ hlook

end HasFile

end Machine

end ClaimCheck.Disk
