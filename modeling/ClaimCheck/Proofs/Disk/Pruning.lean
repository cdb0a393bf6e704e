import Mathlib
import ClaimCheck.Proofs.Disk.Complete
import ClaimCheck.Proofs.Disk.Emptied

/-!
# Deleting a blob with its directories

A blob is deleted by removing its file and then one directory above it after the other, but never that
of the container, until one is not removed.  What goes is the file and directories that have no other
entry (`Machine.Prunes`).  They are all gone, and the container is listed as before without the name
(`IsPruned`), exactly if the path of the container does not lead through one of them
(`deletion_pruned_iff`).  Whether this path starts in one of them is left out: what is found from a
directory that is gone is not the same on all file systems.
-/

namespace ClaimCheck.Disk

open Store Text

/-! ## What a deletion asks -/

/-- The directories above a file, but the top one, the innermost first. -/
def directoriesAbove (names : Location) : List Location := names.dropLast.inits.tail.reverse

section Asked

variable {a : Account} {m : Machine} {place : Locator} {path : Path} {names : Location}

/-- Directories are asked to be removed one after the other, for some rounds. -/
lemma exists_asked_prune (m : Machine) (path : Path) (way : Location) :
    ∃ rounds, (prune path way.reverse).asked Machine.answer m =
      (way.inits.tail.reverse.take rounds).map fun dir => .removeDirectory (path.append dir) := by
  induction way using List.reverseRecOn generalizing m with
  | nil => exact ⟨0, rfl⟩
  | append_singleton way name ih =>
    have hinits : (way ++ [name]).inits.tail.reverse =
        (way ++ [name]) :: way.inits.tail.reverse := by
      cases way <;> simp
    have hprune : prune path (way ++ [name]).reverse =
        Program.ask (.removeDirectory (path.append (way ++ [name]))) fun
          | .ok () => prune path way.reverse
          | .error _ => .done () := by
      rw [List.reverse_append, List.reverse_singleton, List.singleton_append, prune,
        List.reverse_cons, List.reverse_reverse]
      refine congrArg (Program.ask _) (funext fun reply => ?_)
      rcases reply with fault | ⟨⟩ <;> rfl
    rw [hinits, hprune, Program.asked]
    rcases (Machine.answer (.removeDirectory (path.append (way ++ [name]))) m) with
      ⟨fault | ⟨⟩, m'⟩
    · exact ⟨1, rfl⟩
    · obtain ⟨rounds, hrounds⟩ := ih m'
      refine ⟨rounds + 1, ?_⟩
      rw [List.take_succ_cons, List.map_cons, ← hrounds]

/-- What a deletion asks when its names are accepted. -/
lemma deleteBlob_eq (hpath : a.containerPath place.container = .ok path)
    (hsegments : Account.segments place.name = .ok names) :
    (a.deleteBlob place).run = Program.ask (.isThere path) fun
      | .ok true => Program.ask (.remove (path.append names)) fun
        | .ok () => (prune path names.dropLast.reverse).bind fun _ => .done (.ok ())
        | .error fault => .done (.error (Account.missingAs (.blobNotFound place) fault))
      | .ok false => .done (.error (.containerNotFound place.container))
      | .error fault => .done (.error (.disk fault)) := by
  unfold Account.deleteBlob Account.presentContainer
  rw [hpath, hsegments]
  refine congrArg (Program.ask _) (funext fun reply => ?_)
  rcases reply with fault | there | there
  · rfl
  · rfl
  · refine congrArg (Program.ask _) (funext fun reply => ?_)
    rcases reply with fault | ⟨⟩ <;> rfl

end Asked

/-! ## What is listed when a file is gone -/

section Listed

variable {place : Locator} {names : Location} {entries left : Tree.Entries ByteArray}
  {data : ByteArray}

/-- When a file is gone, its name is listed once less. -/
lemma blobNames_erase (hdistinct : (Tree.directory entries).Distinct)
    (hleft : (Tree.directory left).Distinct) (hsegments : Account.segments place.name = .ok names)
    (hfile : (Tree.directory entries).get? names = some (.file data))
    (hfiles : ∀ other content, (Tree.directory left).get? other = some (.file content) ↔
      other ≠ names ∧ (Tree.directory entries).get? other = some (.file content)) :
    (Tree.directory left).blobNames = (Tree.directory entries).blobNames.erase place.name := by
  have hmem : ∀ file, file ∈ (Tree.directory entries).files ↔
      file ∈ (names, data) :: (Tree.directory left).files := by
    rintro ⟨other, content⟩
    rw [List.mem_cons, Tree.mem_files_iff hdistinct, Tree.mem_files_iff hleft, hfiles,
      Prod.mk.injEq]
    rcases eq_or_ne other names with rfl | hother
    · simp [hfile, eq_comm]
    · simp [hother]
  have hgone : (names, data) ∉ (Tree.directory left).files := by
    rw [Tree.mem_files_iff hleft, hfiles]
    exact fun h => h.1 rfl
  have hperm : (Tree.directory entries).files.Perm ((names, data) :: (Tree.directory left).files) :=
    (List.perm_ext_iff_of_nodup (hdistinct.nodup_files _).of_map
      (List.nodup_cons.mpr ⟨hgone, (hleft.nodup_files _).of_map⟩)).mpr hmem
  have hlisted := hperm.map fun file => listedName file.1
  rw [List.map_cons, listedName_of_segments hsegments] at hlisted
  unfold Tree.blobNames
  set listed := (Tree.directory entries).files.map fun file => listedName file.1
  set others := (Tree.directory left).files.map fun file => listedName file.1
  have hsorted : others.mergeSort.Perm (listed.mergeSort.erase place.name) := by
    have hwith : listed.mergeSort.Perm (place.name :: others.mergeSort) :=
      (List.mergeSort_perm listed _).trans
        (hlisted.trans ((List.mergeSort_perm others _).symm.cons place.name))
    have herased := hwith.erase place.name
    rw [List.erase_cons_head] at herased
    exact herased.symm
  exact hsorted.eq_of_pairwise (fun _ _ _ _ => String.le_antisymm) (pairwise_mergeSort_le others)
    ((pairwise_mergeSort_le listed).sublist List.erase_sublist)

end Listed

/-! ## Deleting a blob -/

namespace Machine

variable {a : Account} {m : Machine} {place : Locator} {path : Path} {location names : Location}
  {t : Tree ByteArray} {data : ByteArray}

/-- A blob is deleted only if the file system takes its path. -/
lemma isTaken_of_deleted (hpath : a.containerPath place.container = .ok path)
    (hsegments : Account.segments place.name = .ok names)
    (hok : (m.run (a.deleteBlob place).run).1 = .ok ()) : IsTaken (.ok (path.append names)) := by
  have hthere : answer (.isThere path) m = (m.isThere path, m) := rfl
  have hremove : answer (.remove (path.append names)) m =
      m.takeAway (path.append names) againstRemove := rfl
  unfold run at hok
  rw [deleteBlob_eq hpath hsegments, Program.run_ask, hthere] at hok
  rcases hfound : m.isThere path with fault | there | there
  · rw [hfound] at hok
    cases hok
  · rw [hfound] at hok
    cases hok
  · rw [hfound] at hok
    dsimp only at hok
    rw [Program.run_ask, hremove] at hok
    unfold takeAway at hok
    cases hlook : m.look (path.append names) with
    | error fault =>
      rw [hlook] at hok
      cases hok
    | ok found => exact isTaken_of_locate (look_eq_ok_iff.mp hlook).1

/-- The file of a blob is there when the file system takes its path. -/
lemma hasFile_of_isTaken {entries : Tree.Entries ByteArray}
    (hlook : m.look path = .ok (location, .directory entries))
    (hsegments : Account.segments place.name = .ok names)
    (hfile : (Tree.directory entries).get? names = some (.file data))
    (htaken : IsTaken (.ok (path.append names))) :
    m.HasFile path location (.directory entries) names data := by
  have henters : m.Enters path location := enters_of_look hlook rfl
  have hplain : ∀ name ∈ names, name.IsPlain := fun _ => isPlain_of_segments hsegments
  exact ⟨hlook, hfile, rfl, (henters.isTaken_iff hplain).mp htaken⟩

/-- The container is found. -/
lemma HasFile.answer_isThere (h : m.HasFile path location t names data) :
    answer (.isThere path) m = (.ok true, m) :=
  Prod.ext (isThere_eq_true_iff.mpr ⟨location, t, h.look⟩) rfl

/-- The file is removed. -/
lemma HasFile.answer_remove (h : m.HasFile path location t names data) :
    answer (.remove (path.append names)) m = (.ok (), m.without (location ++ names)) := by
  have hplain : ∀ name ∈ names, name.IsPlain := fun name hname => (h.fits.plain name hname).1
  have hwhole : m.tree.get? (location ++ names) = some (.file data) := by
    rw [← Tree.peek_eq_file_iff, h.peek_append, h.peek_file]
  change m.takeAway (path.append names) againstRemove = _
  unfold takeAway
  rw [(h.enters.look_eq_ok_iff h.ne_nil hplain).mpr ⟨h.fits, rfl, hwhole⟩]
  rfl

/-- A blob whose file is there is deleted, and with it directories up to where this stops. -/
lemma HasFile.exists_deletion (h : m.HasFile path location t names data)
    (hpath : a.containerPath place.container = .ok path)
    (hsegments : Account.segments place.name = .ok names) :
    ∃ top, t.GoesWith names top ∧
      m.run (a.deleteBlob place).run = (.ok (), m.without (location ++ top)) ∧
      (m.without (location ++ top)).Stops path top := by
  have hthere := h.answer_isThere
  have hremove := h.answer_remove
  obtain ⟨way, last, rfl⟩ := (List.eq_nil_or_concat names).resolve_left h.ne_nil
  rw [List.concat_eq_append] at *
  obtain ⟨top, htop, hprune, hstop⟩ := h.exists_prune .self
  refine ⟨top, htop, ?_, hstop⟩
  unfold run at hprune ⊢
  rw [deleteBlob_eq hpath hsegments, Program.run_ask, hthere]
  dsimp only
  rw [Program.run_ask, hremove]
  dsimp only
  rw [Program.run_bind, List.dropLast_concat, hprune, Program.run_done]

/-- What a deletion asks of the file system, in order. -/
lemma HasFile.exists_asked (h : m.HasFile path location t names data)
    (hpath : a.containerPath place.container = .ok path)
    (hsegments : Account.segments place.name = .ok names) :
    ∃ rounds, (a.deleteBlob place).run.asked Machine.answer m =
      .isThere path :: .remove (path.append names) ::
        ((directoriesAbove names).take rounds).map fun dir =>
          .removeDirectory (path.append dir) := by
  rw [deleteBlob_eq hpath hsegments, Program.asked, h.answer_isThere]
  dsimp only
  rw [Program.asked, h.answer_remove]
  dsimp only
  rw [Program.asked_bind]
  obtain ⟨rounds, hrounds⟩ :=
    exists_asked_prune (m.without (location ++ names)) path names.dropLast
  refine ⟨rounds, ?_⟩
  rw [hrounds, Program.asked, List.append_nil, directoriesAbove]

end Machine

/-! ## Removing all that goes -/

/-- All directories that go with a file are gone, and its container is found and listed as before but
without its name. -/
structure IsPruned (a : Account) (m m' : Machine) (place : Locator) (path : Path)
    (location : Location) (t : Tree ByteArray) (names : Location) : Prop where
  gone : ∀ dir, t.GoesWith names dir → m'.tree.peek (location ++ dir) = none
  found : ∃ left, m'.look path = .ok (location, .directory left)
  listed : ∀ listed, (m'.run (a.list place.container).run).1 = .ok listed ↔
    ∃ before, (m.run (a.list place.container).run).1 = .ok before ∧
      listed = before.erase place.name
  unlisted : t.IsRegular → ∀ listed, (m'.run (a.list place.container).run).1 = .ok listed →
    place.name ∉ listed

section IsPruned

variable {a : Account} {m : Machine} {place : Locator} {path : Path} {location names top : Location}
  {t : Tree ByteArray} {entries left : Tree.Entries ByteArray} {data : ByteArray}

/-- What goes with a file is gone only if the path of its container does not lead through it. -/
lemma IsPruned.not_passes {m' : Machine} (hpruned : IsPruned a m m' place path location t names)
    (h : m.HasFile path location t names data) (hhere : m'.here = m.here) {dir : Location}
    (hdir : t.GoesWith names dir) : ¬m.Passes path (location ++ dir) := by
  rintro ⟨front, hfront, ⟨rest, hrest⟩, hspot⟩
  obtain ⟨left, hlook⟩ := hpruned.found
  have hrestne : rest ≠ [] := by
    rintro rfl
    rw [List.append_nil] at hrest
    subst hrest
    have hsame : location = location ++ dir := h.spot_eq.symm.trans hspot
    exact hdir.ne_nil h.ne_nil (by simpa using hsame)
  -- the path of the container is walked still, and so is its part up to the directory
  obtain ⟨hwalk, -⟩ := walk_of_look hlook
  rw [← hrest] at hwalk
  obtain ⟨other, hother, hpeek⟩ := Machine.exists_walk_of_append hfront hrestne hwalk
  have hsame : other = location ++ dir := by
    rw [← hspot, ← Machine.spot_of_here hhere]
    exact Machine.eq_follow_of_walk hother
  rw [hsame, hpruned.gone dir hdir] at hpeek
  cases hpeek

/-- The file system takes the paths of all directories that are left exactly if it took those of all
that were there: the paths of those that go are parts of the path of the file. -/
lemma fits_left_iff (h : m.HasFile path location (.directory entries) names data)
    (hdistinct : (Tree.directory entries).Distinct)
    (htop : (Tree.directory entries).GoesWith names top)
    (hleft : (Tree.directory entries).erase top = .directory left) :
    (∀ dir ∈ (Tree.directory left).directories, Fits path dir) ↔
      ∀ dir ∈ (Tree.directory entries).directories, Fits path dir := by
  have hmem : ∀ dir, dir ∈ (Tree.directory left).directories ↔
      ¬top <+: dir ∧ dir ∈ (Tree.directory entries).directories := by
    intro dir
    rw [Tree.mem_directories_iff (hleft ▸ hdistinct.erase top), Tree.mem_directories_iff hdistinct,
      ← Tree.peek_eq_directory_iff, ← Tree.peek_eq_directory_iff, ← hleft,
      htop.peek_erase h.ne_nil h.peek_file]
    split <;> simp [*]
  refine ⟨fun hfits dir hdir => ?_, fun hfits dir hdir => hfits dir ((hmem dir).mp hdir).2⟩
  by_cases hbelow : top <+: dir
  · obtain ⟨rest, rfl⟩ := hbelow
    obtain ⟨inner, hget⟩ := (Tree.mem_directories_iff hdistinct).mp hdir
    have hseen : (Tree.directory entries).peek (top ++ rest) ≠ none := by
      rw [Tree.peek_eq_directory_iff.mpr ⟨inner, hget⟩]
      exact Option.some_ne_none _
    obtain ⟨others, hothers⟩ := (htop.append h.peek_file hseen).isPrefix
    have hfits := h.fits
    rw [← hothers] at hfits
    exact hfits.left
  · exact hfits dir ((hmem dir).mpr ⟨hbelow, hdir⟩)

/-- What goes with a file is gone if the path of its container does not lead through it. -/
lemma isPruned_of_not_passes (h : m.HasFile path location (.directory entries) names data)
    (hdistinct : (Tree.directory entries).Distinct)
    (htop : (Tree.directory entries).GoesWith names top)
    (hstop : (m.without (location ++ top)).Stops path top)
    (hpath : a.containerPath place.container = .ok path)
    (hsegments : Account.segments place.name = .ok names)
    (hpasses : ∀ dir, (Tree.directory entries).GoesWith names dir →
      ¬m.Passes path (location ++ dir)) :
    IsPruned a m (m.without (location ++ top)) place path location (.directory entries) names := by
  have hnode : ((Tree.directory entries).erase top).peek [] = some .directory := by
    rw [htop.peek_erase h.ne_nil h.peek_file,
      if_neg fun hnil => htop.ne_nil h.ne_nil (List.prefix_nil.mp hnil)]
    rfl
  obtain ⟨left, hleft⟩ := Tree.peek_eq_directory_iff.mp hnode
  rw [Tree.get?_nil, Option.some.injEq] at hleft
  have hdistinct' : (Tree.directory left).Distinct := hleft ▸ hdistinct.erase top
  have hlook := h.look_without htop hpasses
  rw [hleft] at hlook
  have herased := blobNames_erase hdistinct hdistinct' hsegments h.file fun other content => by
    rw [← Tree.peek_eq_file_iff, ← Tree.peek_eq_file_iff, ← hleft,
      htop.peek_erase_eq_file_iff h.ne_nil h.peek_file]
  have hlisted : ∀ listed,
      ((m.without (location ++ top)).run (a.list place.container).run).1 = .ok listed ↔
        (∀ dir ∈ (Tree.directory entries).directories, Fits path dir) ∧
          listed = (Tree.directory entries).blobNames.erase place.name := fun listed => by
    rw [list_eq_ok_iff_of_look hpath hlook hdistinct', fits_left_iff h hdistinct htop hleft, herased]
  refine ⟨fun dir hdir => ?_, ⟨left, hlook⟩, fun listed => ?_, fun hregular listed hlist => ?_⟩
  · have habove := h.prefix_of_stopped htop hpasses hstop hdir
    rw [h.peek_without htop, if_pos ((List.prefix_append_right_inj _).mpr habove)]
  · rw [hlisted]
    simp only [list_eq_ok_iff_of_look hpath h.look hdistinct]
    constructor
    · rintro ⟨hfits, rfl⟩
      exact ⟨_, ⟨hfits, rfl⟩, rfl⟩
    · rintro ⟨_, ⟨hfits, rfl⟩, rfl⟩
      exact ⟨hfits, rfl⟩
  · obtain ⟨-, rfl⟩ := (hlisted listed).mp hlist
    have hnodup := (pairwise_blobNames hregular).imp fun hlt => (precedes_iff_lt.mp hlt).ne
    exact List.Nodup.not_mem_erase hnodup

end IsPruned

/-- **Directories that go with a deleted blob.**  A blob whose file is there is deleted exactly if the
file system takes its path.  What a deletion takes away is the file and directories that have no other
entry, and it asks at most once for each directory above the file, from the innermost on and never for
that of the container.  Where the path of the container starts in none of the directories that the file
leaves empty, these are all gone, and the container is listed as before without the name, exactly if
the path does not lead through one of them.  Below a root that does not lead back up it never does. -/
theorem deletion_pruned_iff (a : Account) {m : Machine} {place : Locator} {path : Path}
    {location names : Location} {entries : Tree.Entries ByteArray} {data : ByteArray}
    (hpath : a.containerPath place.container = .ok path)
    (hlook : m.look path = .ok (location, .directory entries))
    (hdistinct : (Tree.directory entries).Distinct)
    (hsegments : Account.segments place.name = .ok names)
    (hfile : (Tree.directory entries).get? names = some (.file data)) :
    ((m.run (a.deleteBlob place).run).1 = .ok () ↔ IsTaken (a.blobPath place)) ∧
      ∀ m', m.run (a.deleteBlob place).run = (.ok (), m') →
        m.Prunes m' location (.directory entries) names ∧
        (∃ rounds, (a.deleteBlob place).run.asked Machine.answer m =
          .isThere path :: .remove (path.append names) ::
            ((directoriesAbove names).take rounds).map fun dir =>
              .removeDirectory (path.append dir)) ∧
        ((∀ dir, (Tree.directory entries).GoesWith names dir →
            ¬location ++ dir <+: m.origin path) →
          (IsPruned a m m' place path location (.directory entries) names ↔
            ∀ dir, (Tree.directory entries).GoesWith names dir →
              ¬m.Passes path (location ++ dir))) ∧
        (Name.parent ∉ a.root.names →
          IsPruned a m m' place path location (.directory entries) names) := by
  have hblob : a.blobPath place = .ok (path.append names) := by
    unfold Account.blobPath
    rw [hpath, hsegments]
    rfl
  have hhas : IsTaken (.ok (path.append names)) →
      m.HasFile path location (.directory entries) names data :=
    Machine.hasFile_of_isTaken hlook hsegments hfile
  rw [hblob]
  refine ⟨⟨Machine.isTaken_of_deleted hpath hsegments, fun htaken => ?_⟩, fun m' hrun => ?_⟩
  · obtain ⟨top, -, hdeleted, -⟩ := (hhas htaken).exists_deletion hpath hsegments
    rw [hdeleted]
  · have h := hhas (Machine.isTaken_of_deleted hpath hsegments (congrArg Prod.fst hrun))
    obtain ⟨top, htop, hdeleted, hstop⟩ := h.exists_deletion hpath hsegments
    obtain rfl : m.without (location ++ top) = m' := (Prod.mk.inj (hdeleted.symm.trans hrun)).2
    have hpruned : (∀ dir, (Tree.directory entries).GoesWith names dir →
        ¬m.Passes path (location ++ dir)) →
          IsPruned a m (m.without (location ++ top)) place path location (.directory entries) names :=
      isPruned_of_not_passes h hdistinct htop hstop hpath hsegments
    refine ⟨h.prunes htop, h.exists_asked hpath hsegments,
      fun _ => ⟨fun hpruned _ hdir => hpruned.not_passes h rfl hdir, hpruned⟩,
      fun hup => hpruned fun dir hdir => ?_⟩
    -- the name of the container does not lead back up either
    obtain ⟨hcontainer, rfl⟩ := Account.eq_of_containerPath hpath
    rw [← h.spot_eq]
    refine Machine.not_passes_of_not_mem ?_ (hdir.ne_nil h.ne_nil)
    rw [Path.append_names, List.mem_append, List.mem_singleton, not_or]
    exact ⟨hup, hcontainer.2.symm⟩

/-! ## One directory tree, by two paths -/

/-- A blob that is alone in its directories. -/
def lonePlace : Locator := ⟨"c", "d/e/f"⟩

/-- The names that lead to it. -/
def loneNames : Location := [Name.ofChars ['d'], Name.ofChars ['e'], Name.ofChars ['f']]

/-- The file of the blob in its directories, beside another file. -/
def loneEntries : Tree.Entries ByteArray :=
  [(Name.ofChars ['b'], .file ⟨#[50]⟩),
    (Name.ofChars ['d'],
      .directory [(Name.ofChars ['e'], .directory [(Name.ofChars ['f'], .file ⟨#[49]⟩)])])]

/-- The location of the container. -/
def loneContainer : Location := [serverName, Name.ofChars ['a'], Name.ofChars ['c']]

/-- A server with the container. -/
def loneServer : Machine :=
  { tree := .directory [(serverName,
      .directory [(Name.ofChars ['a'],
        .directory [(Name.ofChars ['c'], .directory loneEntries)])])] }

/-- The account of the container. -/
def straightAccount : Account := accountBelow ⟨false, [serverName]⟩ "a"

/-- The same account by a root that leads through the directories of the blob and back up. -/
def roundaboutAccount : Account :=
  accountBelow ⟨false, loneContainer ++ [Name.ofChars ['d'], Name.ofChars ['e']] ++
    List.replicate 4 Name.parent⟩ "a"

/-- Both directories go with the file. -/
lemma goesWith_lone : (Tree.directory loneEntries).GoesWith loneNames [Name.ofChars ['d']] := by
  have hfile : (Tree.directory loneEntries).GoesWith loneNames
      ([Name.ofChars ['d'], Name.ofChars ['e']] ++ [Name.ofChars ['f']]) := .self
  have hinner : (Tree.directory loneEntries).GoesWith loneNames
      ([Name.ofChars ['d']] ++ [Name.ofChars ['e']]) := hfile.single (by simp) (by cbv)
  exact hinner.single (by simp) (by cbv)

/-- No two of these entries share a name, and each name is a text. -/
lemma isRegular_lone : (Tree.directory loneEntries).IsRegular := by
  have hname : ∀ c ∈ ['b', 'd', 'e', 'f'], (Name.ofChars [c]).IsRegular := by
    simp only [List.forall_mem_cons, List.not_mem_nil, false_imp_iff, implies_true, and_true]
    exact ⟨isRegular_ofChars (by decide +kernel), isRegular_ofChars (by decide +kernel),
      isRegular_ofChars (by decide +kernel), isRegular_ofChars (by decide +kernel)⟩
  refine Tree.isRegular_directory (by decide) ?_
  simp only [loneEntries, List.forall_mem_cons, List.not_mem_nil, false_imp_iff, implies_true,
    and_true]
  exact ⟨⟨hname 'b' (by simp), Tree.isRegular_file _⟩, hname 'd' (by simp),
    Tree.isRegular_singleton (hname 'e' (by simp))
      (Tree.isRegular_singleton (hname 'f' (by simp)) (Tree.isRegular_file _))⟩

/-- Where paths stay short the container is listed by the names of both files. -/
lemma list_lone {a : Account} {path : Path} (hpath : a.containerPath "c" = .ok path)
    (hlook : loneServer.look path = .ok (loneContainer, .directory loneEntries))
    (hshort : ∀ dir ∈ (Tree.directory loneEntries).directories,
      (path.append dir).size ≤ longestPath) :
    (loneServer.run (a.list "c").run).1 = .ok ["b", "d/e/f"] := by
  obtain ⟨-, hnul, -⟩ := walk_of_look hlook
  have hnames : (Tree.directory loneEntries).files.map (fun file => listedName file.1) =
      ["b", "d/e/f"] := by decide +kernel
  have hlisted : (Tree.directory loneEntries).blobNames = ["b", "d/e/f"] := by
    unfold Tree.blobNames
    rw [hnames]
    cbv
  rw [run_list_of_fits hpath hlook isRegular_lone.distinct fun dir hdir =>
    fits_of_isStored hnul (isRegular_lone.stored dir hdir) (hshort dir hdir), hlisted]

/-- By a path that does not lead back up, both directories of the blob go with it, and the path leads
through neither. -/
theorem lone_blob_pruned :
    ∃ path m', straightAccount.containerPath "c" = .ok path ∧
      loneServer.run (straightAccount.deleteBlob lonePlace).run = (.ok (), m') ∧
      IsPruned straightAccount loneServer m' lonePlace path loneContainer
        (.directory loneEntries) loneNames ∧
      (m'.run (straightAccount.list "c").run).1 = .ok ["b"] ∧
      ∀ dir, (Tree.directory loneEntries).GoesWith loneNames dir →
        ¬loneServer.Passes path (loneContainer ++ dir) := by
  have hpath : straightAccount.containerPath "c" =
      .ok (straightAccount.root.append [Name.ofChars ['c']]) := by decide +kernel
  have hlook : loneServer.look (straightAccount.root.append [Name.ofChars ['c']]) =
      .ok (loneContainer, .directory loneEntries) := by cbv
  have hsegments : Account.segments lonePlace.name = .ok loneNames := by decide +kernel
  have hfile : (Tree.directory loneEntries).get? loneNames = some (.file ⟨#[49]⟩) := by cbv
  have hup : Name.parent ∉ straightAccount.root.names := by
    change Name.parent ∉ [serverName, Name.ofChars ['a']]
    rw [List.mem_pair]
    decide +kernel
  have hstart : ∀ dir, (Tree.directory loneEntries).GoesWith loneNames dir →
      ¬loneContainer ++ dir <+:
        loneServer.origin (straightAccount.root.append [Name.ofChars ['c']]) := by
    intro dir _ hstart
    cases List.prefix_nil.mp hstart
  obtain ⟨hiff, hdeletion⟩ :=
    deletion_pruned_iff straightAccount hpath hlook isRegular_lone.distinct hsegments hfile
  have hok := hiff.mpr (by decide +kernel)
  obtain ⟨-, -, hpasses, hpruned⟩ := hdeletion _ (Prod.ext hok rfl)
  exact ⟨_, _, hpath, Prod.ext hok rfl, hpruned hup,
    ((hpruned hup).listed ["b"]).mpr ⟨_, list_lone hpath hlook (by decide +kernel), by decide⟩,
    (hpasses hstart).mp (hpruned hup)⟩

/-- By a path that leads through the directories of the blob and back up, the outer one is left, and
the container is not found any more. -/
theorem emptied_directory_left :
    ∃ path m', roundaboutAccount.containerPath "c" = .ok path ∧
      loneServer.run (roundaboutAccount.deleteBlob lonePlace).run = (.ok (), m') ∧
      (Tree.directory loneEntries).GoesWith loneNames [Name.ofChars ['d']] ∧
      m'.tree.get? (loneContainer ++ [Name.ofChars ['d']]) = some (.directory []) ∧
      (loneServer.run (roundaboutAccount.list "c").run).1 = .ok ["b", "d/e/f"] ∧
      (m'.run (roundaboutAccount.list "c").run).1 = .error (.containerNotFound "c") ∧
      ¬IsPruned roundaboutAccount loneServer m' lonePlace path loneContainer
        (.directory loneEntries) loneNames := by
  have hpath : roundaboutAccount.containerPath "c" =
      .ok (roundaboutAccount.root.append [Name.ofChars ['c']]) := by decide +kernel
  have hlook : loneServer.look (roundaboutAccount.root.append [Name.ofChars ['c']]) =
      .ok (loneContainer, .directory loneEntries) := by cbv
  have hok : (loneServer.run (roundaboutAccount.deleteBlob lonePlace).run).1 = .ok () := by
    decide +kernel
  have hleft : (loneServer.run (roundaboutAccount.deleteBlob lonePlace).run).2.tree.get?
      (loneContainer ++ [Name.ofChars ['d']]) = some (.directory []) := by cbv
  refine ⟨_, _, hpath, Prod.ext hok rfl, goesWith_lone, hleft,
    list_lone hpath hlook (by decide +kernel), by decide +kernel, fun hpruned => ?_⟩
  have hgone := hpruned.gone _ goesWith_lone
  rw [Tree.peek_eq_directory_iff.mpr ⟨[], hleft⟩] at hgone
  cases hgone

end ClaimCheck.Disk
