import Mathlib
import ClaimCheck.Proofs.Disk.Answers
import ClaimCheck.Proofs.Disk.Outcomes

/-!
# What a put that fails leaves behind

A put makes the directories on the way to a blob before it makes the file, and when it fails only the
file is taken away again.  The blobs that are there are not touched (`Account.KeepsBlobs`), but a
directory that was made stays: it may be that of a container that was not there, or stand where another
blob could have been put.

So nothing is seen to have changed (`Account.Unchanged`) exactly when no such directory is made: the
names are refused, the path of the container is not taken, or the directory of the blob cannot be made
for another reason than one above it that is missing (`Account.Spares`).
-/

namespace ClaimCheck.Disk

open Store

namespace Account

/-! ## What is seen of a store -/

/-- The container is there. -/
def HasContainer (a : Account) (m : Machine) (container : String) : Prop :=
  ∃ path, (m.run (a.presentContainer container).run).1 = .ok path

/-- The blobs are those that were there before: each is read as it was, and each container that was
listed is listed as it was.  A container that is new is empty. -/
structure KeepsBlobs (a : Account) (m m' : Machine) : Prop where
  get_iff : ∀ place data,
    (m'.run (a.get place).run).1 = .ok data ↔ (m.run (a.get place).run).1 = .ok data
  list : ∀ container listed, (m.run (a.list container).run).1 = .ok listed →
    (m'.run (a.list container).run).1 = .ok listed
  list_new : ∀ container listed, (m'.run (a.list container).run).1 = .ok listed →
    ¬a.HasContainer m container → listed = []

/-- Nothing is seen to have changed: the same containers are there, they list the same blobs, which
hold the same data, and whatever could be put can be put. -/
structure Unchanged (a : Account) (m m' : Machine) : Prop where
  container_iff : ∀ container, a.HasContainer m' container ↔ a.HasContainer m container
  list_iff : ∀ container listed, (m'.run (a.list container).run).1 = .ok listed ↔
    (m.run (a.list container).run).1 = .ok listed
  get_iff : ∀ place data,
    (m'.run (a.get place).run).1 = .ok data ↔ (m.run (a.get place).run).1 = .ok data
  free : ∀ place data, (m.run (a.put place data).run).1 = .ok () →
    (m'.run (a.put place data).run).1 = .ok ()

/-- A put for the place makes no directory that is seen: the names are refused, or the container's own
directory could never be made, or the directory of the blob is refused at once, since it is there or
something stands in its way. -/
inductive Spares (a : Account) (m : Machine) (place : Locator) : Prop
  | refused (hplace : ¬∃ names, Accepted place names)
  | untaken (hpath : ¬IsTaken (a.containerPath place.container))
  | settled {names : Location} {fault : Fault} (hplace : Accepted place names)
      (hcreate : (m.create (a.root.append (place.container.toUTF8 :: names.dropLast)) .empty).1 =
        .error fault)
      (hfault : fault ≠ .notFound)

/-- A container that is listed is there. -/
lemma hasContainer_of_list {a : Account} {m : Machine} {container : String} {listed : List String}
    (hlist : (m.run (a.list container).run).1 = .ok listed) : a.HasContainer m container := by
  unfold Account.list at hlist
  obtain ⟨path, hpath, -⟩ := Machine.run_attempt_bind_eq_ok_iff.mp hlist
  exact ⟨path, hpath⟩

/-- Nothing is seen to change when nothing does. -/
lemma Unchanged.refl (a : Account) (m : Machine) : a.Unchanged m m :=
  ⟨fun _ => Iff.rfl, fun _ _ => Iff.rfl, fun _ _ => Iff.rfl, fun _ _ => id⟩

/-- What is seen to be unchanged keeps its blobs. -/
lemma Unchanged.keepsBlobs {a : Account} {m m' : Machine} (h : a.Unchanged m m') :
    a.KeepsBlobs m m' where
  get_iff := h.get_iff
  list container listed := (h.list_iff container listed).mpr
  list_new container _ hlist hnew :=
    absurd (hasContainer_of_list ((h.list_iff container _).mp hlist)) hnew

end Account

/-! ## Listings -/

/-- Trees with the same files list the same names. -/
lemma blobNames_congr {t t' : Tree ByteArray} (h : t.Distinct) (h' : t'.Distinct)
    (hsame : ∀ location content,
      t'.peek location = some (.file content) ↔ t.peek location = some (.file content)) :
    t'.blobNames = t.blobNames := by
  have hmem : ∀ file, file ∈ t'.files ↔ file ∈ t.files := by
    rintro ⟨location, content⟩
    rw [Tree.mem_files_iff h, Tree.mem_files_iff h', ← Tree.peek_eq_file_iff,
      ← Tree.peek_eq_file_iff, hsame]
  have hperm : t'.files.Perm t.files :=
    (List.perm_ext_iff_of_nodup (Tree.Distinct.nodup_files t' h').of_map
      (Tree.Distinct.nodup_files t h).of_map).mpr hmem
  exact mergeSort_eq_of_perm (hperm.map _)

/-! ## Places of blobs -/

/-- The first name that leads to nothing is vacant. -/
lemma Machine.Lacks.vacant {m : Machine} {start : Path} {base : Location} {front : List Name}
    {name : Name} (h : m.Lacks start base front name) : m.Vacant base (front ++ [name]) := by
  refine ⟨fun above content habove hfile => ?_, h.missing⟩
  rcases List.prefix_concat_iff.mp habove with rfl | habove
  · rw [h.missing] at hfile
    cases hfile
  · rw [Tree.peek_of_prefix h.parent habove] at hfile
    cases hfile

/-- A location below that of a container on the way to a blob is that of another blob. -/
lemma exists_accepted_of_prefix {place : Locator} {names way location : Location}
    (hplace : Accepted place names)
    (hlocation : location <+: way ++ place.container.toUTF8 :: names.dropLast)
    (hbelow : ¬location <+: way ++ [place.container.toUTF8]) :
    ∃ other others, Accepted ⟨place.container, other⟩ others ∧
      location = way ++ place.container.toUTF8 :: others := by
  have hway : way ++ [place.container.toUTF8] <+:
      way ++ place.container.toUTF8 :: names.dropLast := ⟨names.dropLast, by simp⟩
  obtain ⟨others, rfl⟩ := (List.prefix_or_prefix_of_prefix hlocation hway).resolve_left hbelow
  have hne : others ≠ [] := by
    rintro rfl
    exact hbelow (by rw [List.append_nil])
  rw [List.append_assoc, List.singleton_append] at hlocation ⊢
  rw [List.prefix_append_right_inj, List.cons_prefix_cons] at hlocation
  obtain ⟨other, hother⟩ := exists_segments_of_prefix hplace.segments hne
    (hlocation.2.trans (List.dropLast_prefix _))
  exact ⟨other, others, ⟨hplace.container, hother⟩, rfl⟩

namespace Account.Footing

variable {a : Account} {m m' : Machine} {start : Path} {base way names : Location} {place : Locator}
  {container : String} {data : ByteArray} {made : Location → Node ByteArray → Prop}

/-- A store stands where it did. -/
lemma grow (h : a.Footing m start base way) (hfills : m.Fills made m') :
    a.Footing m' start base way :=
  ⟨h.root, h.plain, h.enters.grow hfills⟩

/-- Files are seen exactly where they were when only directories are new. -/
lemma peek_file_iff (hfills : m.Fills made m')
    (hmade : ∀ location node, made location node → node = .directory) {location : Location} :
    m'.tree.peek location = some (.file data) ↔ m.tree.peek location = some (.file data) := by
  rcases hfills.peek location with hsame | ⟨hnone, node, hnode, hnew⟩
  · rw [hsame]
  · rw [hnone, hnode, hmade _ _ hnew]
    exact iff_of_false (fun heq => by cases heq) fun heq => by cases heq

/-- When only directories are new, by names that fit, the blobs are those that were there. -/
lemma keepsBlobs (h : a.Footing m start base way) (hdistinct : m.tree.Distinct)
    (hfills : m.Fills made m') (hmade : ∀ location node, made location node → node = .directory)
    (hfits : ∀ names node, made (base ++ names) node → Fits start names) :
    a.KeepsBlobs m m' := by
  have h' := h.grow hfills
  have hdistinct' := hfills.distinct hdistinct
  have hfile : ∀ {location data}, m'.tree.peek location = some (.file data) ↔
      m.tree.peek location = some (.file data) := peek_file_iff hfills hmade
  -- below one location the same files stand, whatever directories are new there
  have hnames : ∀ location t t', m.tree.get? location = some t → m'.tree.get? location = some t' →
      t'.blobNames = t.blobNames := by
    intro location t t' hget hget'
    refine blobNames_congr (hdistinct.part hget) (hdistinct'.part hget') ?_
    intro rest content
    have hpeek := Tree.peek_append m.tree location rest
    have hpeek' := Tree.peek_append m'.tree location rest
    rw [hget, Option.bind_some] at hpeek
    rw [hget', Option.bind_some] at hpeek'
    rw [← hpeek, ← hpeek', hfile]
  refine ⟨fun place data => ?_, fun container listed hlist => ?_,
    fun container listed hlist hnew => ?_⟩
  · rw [h.get_eq_ok_iff, h'.get_eq_ok_iff]
    simp only [hfile]
  · obtain ⟨hname, hcontainer, entries, hget, hbelow, rfl⟩ := (h.list_eq_ok_iff hdistinct).mp hlist
    have hdir := hfills.peek_eq_some (Tree.peek_eq_directory_iff.mpr ⟨entries, hget⟩)
    obtain ⟨entries', hget'⟩ := Tree.peek_eq_directory_iff.mp hdir
    refine (h'.list_eq_ok_iff hdistinct').mpr
      ⟨hname, hcontainer, entries', hget', fun dir hdir => ?_, (hnames _ _ _ hget hget').symm⟩
    rcases hfills.peek (base ++ (way ++ [container.toUTF8]) ++ dir) with
      hsame | ⟨-, node, -, hnew⟩
    · exact hbelow dir (hsame ▸ hdir)
    · rw [List.append_assoc] at hnew
      exact hfits _ node hnew
  · obtain ⟨hname, hcontainer, entries, hget, -, rfl⟩ := (h'.list_eq_ok_iff hdistinct').mp hlist
    -- nothing was there, so nothing was below it
    have hnone : m.tree.peek (base ++ (way ++ [container.toUTF8])) = none := by
      by_contra hsome
      exact hnew ⟨_, h.presentContainer_eq_ok_iff.mpr ⟨hname, rfl, hcontainer, hsome⟩⟩
    have hempty : (Tree.empty : Tree ByteArray).blobNames = [] := List.mergeSort_nil
    rw [← hempty]
    refine blobNames_congr Tree.distinct_empty (hdistinct'.part hget) fun rest content => ?_
    have hpeek := Tree.peek_append m'.tree (base ++ (way ++ [container.toUTF8])) rest
    rw [hget, Option.bind_some] at hpeek
    rw [← hpeek, hfile, Tree.peek_append_of_none hnone]
    refine iff_of_false (fun heq => by cases heq) fun heq => ?_
    cases rest with
    | nil => cases heq
    | cons name rest => cases heq

/-- Nothing is seen to have changed when nothing is new where paths are taken. -/
lemma unchanged (h : a.Footing m start base way) (hdistinct : m.tree.Distinct)
    (hkeeps : a.KeepsBlobs m m') (hfills : m.Fills made m')
    (hmade : ∀ location node, made location node → node = .directory)
    (hfree : ∀ names node, Fits start (way ++ names) → names ≠ [] →
      ¬made (base ++ (way ++ names)) node) : a.Unchanged m m' := by
  have h' := h.grow hfills
  have hpeek : ∀ names, Fits start (way ++ names) → names ≠ [] →
      m'.tree.peek (base ++ (way ++ names)) = m.tree.peek (base ++ (way ++ names)) := by
    intro names hfits hnames
    refine (hfills.peek _).resolve_right ?_
    rintro ⟨-, node, -, hnew⟩
    exact hfree names node hfits hnames hnew
  have hcontainer : ∀ container, a.HasContainer m' container ↔ a.HasContainer m container := by
    intro container
    unfold HasContainer
    simp only [h.presentContainer_eq_ok_iff, h'.presentContainer_eq_ok_iff]
    constructor
    · rintro ⟨path, hname, hpath, hfits, hsome⟩
      rw [hpeek _ hfits (List.cons_ne_nil _ _)] at hsome
      exact ⟨path, hname, hpath, hfits, hsome⟩
    · rintro ⟨path, hname, hpath, hfits, hsome⟩
      rw [← hpeek _ hfits (List.cons_ne_nil _ _)] at hsome
      exact ⟨path, hname, hpath, hfits, hsome⟩
  refine ⟨hcontainer, fun container listed => ⟨fun hlist => ?_, hkeeps.list container listed⟩,
    hkeeps.get_iff, fun place data hput => ?_⟩
  · obtain ⟨hname, hfits, entries, hget, hbelow, -⟩ :=
      (h'.list_eq_ok_iff (hfills.distinct hdistinct)).mp hlist
    have hdir := Tree.peek_eq_directory_iff.mpr ⟨entries, hget⟩
    rw [hpeek _ hfits (List.cons_ne_nil _ _)] at hdir
    obtain ⟨entries', hget'⟩ := Tree.peek_eq_directory_iff.mp hdir
    have hbefore := (h.list_eq_ok_iff hdistinct).mpr
      ⟨hname, hfits, entries', hget', fun dir hdir => hbelow dir (hfills.peek_eq_some hdir), rfl⟩
    rw [hkeeps.list container _ hbefore] at hlist
    rwa [← hlist]
  · obtain ⟨names, hplace, hfits, hvacant, hlimit⟩ := h.vacant_of_put_ok hput
    refine h'.put_ok_of_vacant hplace hfits ⟨fun front content hfront hfile => ?_, ?_⟩ ?_
    · exact hvacant.clear front content hfront ((peek_file_iff hfills hmade).mp hfile)
    · rw [hpeek _ hfits (List.cons_ne_nil _ _), hvacant.missing]
    · rwa [hfills.sizeLimit]

/-- A container that was not there and now is there is seen. -/
lemma not_unchanged_of_container (h : a.Footing m start base way) (h' : a.Footing m' start base way)
    (hplace : Accepted place names) (hfits : Fits start (way ++ [place.container.toUTF8]))
    (hbefore : m.tree.peek (base ++ (way ++ [place.container.toUTF8])) = none)
    (hafter : m'.tree.peek (base ++ (way ++ [place.container.toUTF8])) ≠ none) :
    ¬a.Unchanged m m' := by
  intro hunchanged
  obtain ⟨path, hpath⟩ := (hunchanged.container_iff place.container).mp
    ⟨_, h'.presentContainer_eq_ok_iff.mpr ⟨hplace.container, rfl, hfits, hafter⟩⟩
  obtain ⟨-, -, -, hsome⟩ := h.presentContainer_eq_ok_iff.mp hpath
  exact hsome hbefore

/-- What stands where a blob could have been put is seen. -/
lemma not_unchanged_of_vacant (h : a.Footing m start base way) (h' : a.Footing m' start base way)
    (hplace : Accepted place names) (hfits : Fits start (way ++ place.container.toUTF8 :: names))
    (hvacant : m.Vacant base (way ++ place.container.toUTF8 :: names))
    (hafter : m'.tree.peek (base ++ (way ++ place.container.toUTF8 :: names)) ≠ none) :
    ¬a.Unchanged m m' := by
  intro hunchanged
  have hput : (m.run (a.put place ByteArray.empty).run).1 = .ok () :=
    h.put_ok_of_vacant hplace hfits hvacant fun limit _ => Nat.zero_le limit
  obtain ⟨others, hothers, -, hvacant', -⟩ := h'.vacant_of_put_ok (hunchanged.free _ _ hput)
  have hsame := hothers.segments
  rw [hplace.segments] at hsame
  cases hsame
  exact hafter hvacant'.missing

/-- The first directory that is missing is seen once it is made: the container is there then, or a blob
could have been put where the directory stands. -/
lemma not_unchanged (h : a.Footing m start base way) (hplace : Accepted place names)
    (hfits : Fits start (way ++ [place.container.toUTF8]))
    (hcreate : (m.create (a.root.append (place.container.toUTF8 :: names.dropLast)) .empty).1 =
      .ok () ∨ (m.create (a.root.append (place.container.toUTF8 :: names.dropLast)) .empty).1 =
        .error .notFound)
    (hfills : (m.run (makeDirectories (a.root.append
      (place.container.toUTF8 :: names.dropLast)))).2.Fills made m') : ¬a.Unchanged m m' := by
  have hgrown : m.Fills (fun _ _ => True) m' :=
    ((h.fills_makeDirectories hplace).mono fun _ _ _ => trivial).trans
      (hfills.mono fun _ _ _ => trivial)
  have h' := h.grow hgrown
  have hplain := h.plain_directory hplace
  rw [h.append] at hcreate hfills
  obtain ⟨hnul, hshort, front, name, rest, hnames, hlacks⟩ :=
    h.enters.exists_lacks (by simp) hplain hcreate
  have hbegins : front ++ [name] <+: way ++ place.container.toUTF8 :: names.dropLast :=
    ⟨rest, by rw [hnames, List.append_assoc, List.singleton_append]⟩
  have hway : way ++ [place.container.toUTF8] <+:
      way ++ place.container.toUTF8 :: names.dropLast := ⟨names.dropLast, by simp⟩
  rw [hnames] at hplain hnul hshort hfills
  obtain ⟨hpeek, -⟩ := h.enters.run_makeDirectories_of_lacks hlacks
    (fun other hother => hplain other (List.mem_append_right _ (List.mem_cons_of_mem _ hother)))
    hnul hshort
  have hmade := fun more hmore hsizes => hfills.peek_eq_some (hpeek more hmore hsizes)
  by_cases hfirst : front ++ [name] <+: way ++ [place.container.toUTF8]
  · -- the directory of the container is among those that were missing
    obtain ⟨more, hmore⟩ := hfirst
    rw [List.append_assoc, List.singleton_append] at hmore
    have hrest : more <+: rest := by
      rw [← hmore, hnames, List.prefix_append_right_inj, List.cons_prefix_cons] at hway
      exact hway.2
    have hsizes : ∀ other ∈ more, other.size ≤ longestName := by
      intro other hother
      rw [← hmore] at hfits
      exact (hfits.plain other (List.mem_append_right _ (List.mem_cons_of_mem _ hother))).2
    refine h.not_unchanged_of_container h' hplace hfits ?_ ?_
    · rw [← hmore]
      exact hlacks.peek_append more
    · rw [← hmore, hmade more hrest hsizes]
      exact Option.some_ne_none _
  · -- the name of the first directory that was missing could have been that of a blob
    obtain ⟨other, others, hother, hlocation⟩ := exists_accepted_of_prefix hplace hbegins hfirst
    have hplaced := hlacks.fits
    have hvacant := hlacks.vacant
    have hdir := hmade [] List.nil_prefix (by simp)
    rw [hlocation] at hplaced hvacant hdir
    refine h.not_unchanged_of_vacant h' hother hplaced hvacant ?_
    rw [hdir]
    exact Option.some_ne_none _

end Account.Footing

/-! ## Puts that fail -/

/-- A directory that is refused at once, and not because one above it is missing, makes no other. -/
lemma run_makeDirectories_of_refused {m : Machine} {path : Path} {names : List Name}
    (hnames : names ≠ []) {fault : Fault}
    (hcreate : (m.create (path.append names) .empty).1 = .error fault) (hfault : fault ≠ .notFound) :
    (m.run (makeDirectories (path.append names))).2 = m := by
  have hsame := Machine.create_of_error hcreate
  rw [← List.dropLast_concat_getLast hnames, Machine.run_makeDirectories_concat,
    List.dropLast_concat_getLast]
  rcases hrun : m.create (path.append names) .empty with ⟨outcome, m'⟩
  rw [hrun] at hcreate hsame
  cases hcreate
  cases hsame
  cases fault with
  | notFound => exact absurd rfl hfault
  | _ => rfl

/-- A put that fails keeps the blobs that are there.  Nothing at all is seen to have changed exactly if
it made no directory that is seen. -/
theorem failed_put_unchanged_iff (a : Account) {m m' : Machine} {place : Locator} {data : ByteArray}
    {fault : Store.Fault} (hrooted : a.IsRooted m) (hdistinct : m.tree.Distinct)
    (hput : m.run (a.put place data).run = (.error fault, m')) :
    a.KeepsBlobs m m' ∧ (a.Unchanged m m' ↔ a.Spares m place) := by
  obtain ⟨start, base, way, h⟩ := hrooted
  by_cases hnames : ∃ names, Accepted place names
  · obtain ⟨names, hplace⟩ := hnames
    have hkept := h.fills_of_put_error hplace hput
    have hfills := (h.fills_makeDirectories hplace).trans (hkept.mono fun _ _ => False.elim)
    have hkeeps := h.keepsBlobs hdistinct hfills (fun _ _ hnew => hnew.1) <| by
      rintro others node ⟨-, front, -, -, heq, hfits⟩
      rwa [List.append_cancel_left heq]
    have htaken : IsTaken (a.containerPath place.container) ↔
        Fits start (way ++ [place.container.toUTF8]) := by
      rw [containerPath_eq a hplace.container, h.append]
      exact h.enters.isTaken_iff (h.plain_container hplace.container)
    refine ⟨hkeeps, fun hunchanged => ?_, fun hspares => ?_⟩
    · by_contra hspares
      refine h.not_unchanged hplace (htaken.mp ?_) ?_ hkept hunchanged
      · by_contra huntaken
        exact hspares (.untaken huntaken)
      · rcases hcreate : (m.create (a.root.append
          (place.container.toUTF8 :: names.dropLast)) .empty).1 with refused | ⟨⟩
        · refine .inr (congrArg _ ?_)
          by_contra hfault
          exact hspares (.settled hplace hcreate hfault)
        · exact .inl rfl
    · cases hspares with
      | refused hrefused => exact absurd ⟨names, hplace⟩ hrefused
      | untaken huntaken =>
        refine h.unchanged hdistinct hkeeps hfills (fun _ _ hnew => hnew.1) ?_
        rintro others node hfits hothers ⟨-, front, -, hfront, heq, -⟩
        refine huntaken (htaken.mpr ?_)
        rw [← List.append_cancel_left heq, List.prefix_append_right_inj] at hfront
        cases others with
        | nil => exact absurd rfl hothers
        | cons first rest =>
          rw [(List.cons_prefix_cons.mp hfront).1, List.append_cons] at hfits
          exact hfits.left
      | settled hplace' hcreate hfault =>
        have hsame := hplace'.segments
        rw [hplace.segments] at hsame
        cases hsame
        rw [run_makeDirectories_of_refused (List.cons_ne_nil _ _) hcreate hfault] at hkept
        exact h.unchanged hdistinct hkeeps hkept (fun _ _ => False.elim) fun _ _ _ _ => id
  · obtain ⟨refused, hrun⟩ := run_put_refused (m := m) (a := a) hnames data
    rw [hrun] at hput
    cases hput
    have hunchanged := Account.Unchanged.refl a m
    exact ⟨hunchanged.keepsBlobs, fun _ => .refused hnames, fun _ => hunchanged⟩

/-- A blob behind a directory, under a name that no file system takes. -/
def nulPlace : Locator := ⟨"c", "e/\x00"⟩

/-- What the server is left with when such a blob was put. -/
def litteredServer : Machine := (emptyServer.run (serverAccount.put nulPlace "1".toUTF8).run).2

/-- A put that failed has left a container that was not there, and a directory where a blob could have
been put. -/
theorem directory_left_behind :
    emptyServer.run (serverAccount.put nulPlace "1".toUTF8).run =
        (.error (.disk .nulInName), litteredServer) ∧
      (emptyServer.run (serverAccount.list "c").run).1 = .error (.containerNotFound "c") ∧
      (litteredServer.run (serverAccount.list "c").run).1 = .ok [] ∧
      (emptyServer.run (serverAccount.put ⟨"c", "e"⟩ "2".toUTF8).run).1 = .ok () ∧
      (litteredServer.run (serverAccount.put ⟨"c", "e"⟩ "2".toUTF8).run).1 =
        .error (.blobExists ⟨"c", "e"⟩) ∧
      ¬serverAccount.Unchanged emptyServer litteredServer := by
  have hlist : (emptyServer.run (serverAccount.list "c").run).1 =
      .error (.containerNotFound "c") := by decide +kernel
  have hkept : IsKept serverAccount.root [serverName] litteredServer :=
    Account.isKept_of_empty look_emptyServer rfl [.put nulPlace "1".toUTF8]
  have hnames : litteredServer.run (serverAccount.list "c").run =
      (.ok (Tree.directory [(Name.ofChars ['e'], .directory [])]).blobNames, litteredServer) :=
    hkept.run_list (containerPath_eq _ (by decide)) (by cbv)
  have hlist' : (litteredServer.run (serverAccount.list "c").run).1 = .ok [] := by
    rw [hnames]
    decide +kernel
  have hfailed : (emptyServer.run (serverAccount.put nulPlace "1".toUTF8).run).1 =
      .error (.disk .nulInName) := by decide +kernel
  refine ⟨Prod.ext hfailed rfl, hlist, hlist', by decide +kernel, by decide +kernel,
    fun hunchanged => ?_⟩
  rw [(hunchanged.list_iff "c" []).mp hlist'] at hlist
  cases hlist

/-- The store of the server stands. -/
lemma stands_emptyServer : serverAccount.Stands emptyServer where
  plain := List.forall_mem_singleton.mpr ⟨by decide, by decide⟩
  origin := rfl
  distinct := Tree.distinct_directory_iff.mpr ⟨List.nodup_singleton _,
    List.forall_mem_singleton.mpr (Tree.distinct_directory_iff.mpr ⟨List.nodup_nil, by simp⟩)⟩

/-- After calls that left a directory behind, a put onto a blob that is there is seen to change
nothing, while one below another directory that is missing is seen. -/
theorem failed_puts_seen :
    (∃ m', (serverAccount.answerAll emptyServer refusedCalls).2.run
        (serverAccount.put ⟨"c", "a/b"⟩ "3".toUTF8).run = (.error (.blobExists ⟨"c", "a/b"⟩), m') ∧
      serverAccount.Unchanged (serverAccount.answerAll emptyServer refusedCalls).2 m') ∧
    ∃ m', (serverAccount.answerAll emptyServer refusedCalls).2.run
        (serverAccount.put nulPlace "3".toUTF8).run = (.error (.disk .nulInName), m') ∧
      serverAccount.KeepsBlobs (serverAccount.answerAll emptyServer refusedCalls).2 m' ∧
      ¬serverAccount.Unchanged (serverAccount.answerAll emptyServer refusedCalls).2 m' := by
  have hstands := stands_emptyServer.answerAll refusedCalls
  constructor
  · have hput : ((serverAccount.answerAll emptyServer refusedCalls).2.run
        (serverAccount.put ⟨"c", "a/b"⟩ "3".toUTF8).run).1 =
          .error (.blobExists ⟨"c", "a/b"⟩) := by decide +kernel
    have hplace : Accepted ⟨"c", "a/b"⟩ [Name.ofChars ['a'], Name.ofChars ['b']] :=
      ⟨by decide, by decide +kernel⟩
    obtain ⟨-, hiff⟩ := failed_put_unchanged_iff serverAccount hstands.isRooted hstands.distinct
      (Prod.ext hput rfl)
    have hcreate : ((serverAccount.answerAll emptyServer refusedCalls).2.create (serverAccount.root.append
        ["c".toUTF8, Name.ofChars ['a']]) .empty).1 = .error .alreadyExists := by
      decide +kernel
    exact ⟨_, Prod.ext hput rfl, hiff.mpr (.settled hplace hcreate (by decide))⟩
  · have hput : ((serverAccount.answerAll emptyServer refusedCalls).2.run
        (serverAccount.put nulPlace "3".toUTF8).run).1 =
          .error (.disk .nulInName) := by decide +kernel
    have hplace : Accepted nulPlace [Name.ofChars ['e'], Name.ofChars ['\x00']] :=
      ⟨by decide, by decide +kernel⟩
    obtain ⟨hkeeps, hiff⟩ := failed_put_unchanged_iff serverAccount hstands.isRooted
      hstands.distinct (Prod.ext hput rfl)
    refine ⟨_, Prod.ext hput rfl, hkeeps, fun hunchanged => ?_⟩
    cases hiff.mp hunchanged with
    | refused hrefused => exact hrefused ⟨_, hplace⟩
    | untaken huntaken => exact huntaken (by decide +kernel)
    | settled hplace' hcreate hfault =>
      have hsame := hplace'.segments
      rw [hplace.segments] at hsame
      cases hsame
      have hmade : ((serverAccount.answerAll emptyServer refusedCalls).2.create
          (serverAccount.root.append ["c".toUTF8, Name.ofChars ['e']]) .empty).1 = .ok () := by
        decide +kernel
      cases hmade.symm.trans hcreate

end ClaimCheck.Disk
