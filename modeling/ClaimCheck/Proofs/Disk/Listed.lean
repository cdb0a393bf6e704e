import Mathlib
import ClaimCheck.Proofs.Disk.Entering
import ClaimCheck.Proofs.Disk.Listing
import ClaimCheck.Proofs.Disk.Run

/-!
# Listing a container

A container whose directory is there is listed by the names of all files below it, provided that the
file system takes the path of each directory below it (`run_list_of_fits`).  A listing that succeeds has
read all these directories, so they were taken (`fits_of_list`).  Where names are as a file system holds
them, it can only fail because a path is too long (`run_list_of_long`).
-/

namespace ClaimCheck.Disk

open Store

variable {a : Account} {m : Machine} {container : String} {path : Path} {location names : Location}
  {entries : Tree.Entries ByteArray}

/-! ## Containers that are there -/

/-- The path of a container whose name is accepted. -/
lemma containerPath_eq (a : Account) (hname : isEntryName container = true) :
    a.containerPath container = .ok (a.root.append [container.toUTF8]) := by
  unfold Account.containerPath
  rw [if_pos hname]
  rfl

/-- A container is looked for by a name that is accepted. -/
lemma run_presentContainer_accepted (m : Machine) (a : Account)
    (hname : isEntryName container = true) :
    m.run (a.presentContainer container).run =
      (match m.isThere (a.root.append [container.toUTF8]) with
        | .ok true => .ok (a.root.append [container.toUTF8])
        | .ok false => .error (.containerNotFound container)
        | .error fault => .error (.disk fault), m) := by
  have hanswer : Machine.answer (.isThere (a.root.append [container.toUTF8])) m =
      (m.isThere (a.root.append [container.toUTF8]), m) := rfl
  unfold Account.presentContainer
  rw [Machine.run_attempt_bind, Machine.run_liftM, containerPath_eq a hname]
  dsimp only
  rw [Machine.run_attempt_bind, Machine.run_wrapping, Machine.run_perform, hanswer]
  rcases m.isThere _ with fault | there | there <;> rfl

/-- A container is not looked for by a name that is refused. -/
lemma run_presentContainer_refused (m : Machine) (a : Account)
    (hname : ¬isEntryName container = true) :
    m.run (a.presentContainer container).run = (.error (.invalidName .container container), m) := by
  unfold Account.presentContainer Account.containerPath
  rw [Machine.run_attempt_bind, Machine.run_liftM, if_neg hname]

/-- A container is found when the disk says that it is there. -/
lemma run_presentContainer_of_isThere {present : Bool} (hname : isEntryName container = true)
    (hthere : m.isThere (a.root.append [container.toUTF8]) = .ok present) :
    m.run (a.presentContainer container).run =
      (if present then .ok (a.root.append [container.toUTF8])
        else .error (.containerNotFound container), m) := by
  rw [run_presentContainer_accepted m a hname, hthere]
  cases present <;> rfl

/-- The path of a container goes on from the root by one name. -/
lemma Account.eq_of_containerPath (h : a.containerPath container = .ok path) :
    Name.IsPlain container.toUTF8 ∧ path = a.root.append [container.toUTF8] := by
  unfold containerPath at h
  split at h
  · next hname =>
    cases h
    exact ⟨Name.isPlain_toUTF8 hname, rfl⟩
  · cases h

/-- Something is there where the path leads to it. -/
lemma Machine.isThere_eq_true_iff : m.isThere path = .ok true ↔
    ∃ location t, m.look path = .ok (location, t) := by
  unfold Machine.isThere
  rcases m.look path with fault | ⟨location, t⟩
  · cases fault <;> simp
  · simp

/-- A directory is listed after it was found. -/
lemma Account.list_eq (hpath : a.containerPath container = .ok path) :
    (a.list container).run = Program.ask (.isThere path) fun
      | .ok true => (Listing.start path).collect.bind fun outcome =>
        .done ((outcome.mapError Store.Fault.disk).map List.mergeSort)
      | .ok false => .done (.error (.containerNotFound container))
      | .error fault => .done (.error (.disk fault)) := by
  unfold Account.list Account.presentContainer
  rw [hpath]
  refine congrArg (Program.ask _) (funext fun reply => ?_)
  rcases reply with fault | there | there
  · rfl
  · rfl
  · change Program.bind (Program.bind (Listing.start path).collect _) _ = _
    rw [Program.bind_assoc]
    refine congrArg _ (funext fun outcome => ?_)
    rcases outcome with fault | found <;> rfl

section Looked

variable {t : Tree ByteArray}

/-- What is found is asked for first. -/
lemma answer_isThere_of_look (hlook : m.look path = .ok (location, t)) :
    Machine.answer (.isThere path) m = (.ok true, m) :=
  Prod.ext (Machine.isThere_eq_true_iff.mpr ⟨location, t, hlook⟩) rfl

/-- What is found is listed as far as its directories are read. -/
lemma run_list_eq (hpath : a.containerPath container = .ok path)
    (hlook : m.look path = .ok (location, t)) :
    m.run (a.list container).run =
      (((m.run (Listing.start path).collect).1.mapError Store.Fault.disk).map List.mergeSort,
        (m.run (Listing.start path).collect).2) := by
  unfold Machine.run
  rw [Account.list_eq hpath, Program.run_ask, answer_isThere_of_look hlook]
  dsimp only
  rw [Program.run_bind, Program.run_done]

end Looked

/-! ## Listings that succeed -/

/-- Where the paths of directories fit, they lead to the directories. -/
lemma reads_of_fits (hlook : m.look path = .ok (location, .directory entries))
    (hdistinct : (Tree.directory entries).Distinct)
    (hfits : ∀ dir ∈ (Tree.directory entries).directories, Fits path dir) {names : Location}
    {inner : Tree.Entries ByteArray}
    (hget : (Tree.directory entries).get? names = some (.directory inner)) :
    m.Reads (path.append names) inner :=
  ⟨_, Machine.look_append hlook
    (hfits names ((Tree.mem_directories_iff hdistinct).mpr ⟨inner, hget⟩)) hget⟩

/-- A container is listed by the names of the files below it where the file system takes the paths of
all its directories. -/
lemma run_list_of_fits (hpath : a.containerPath container = .ok path)
    (hlook : m.look path = .ok (location, .directory entries))
    (hdistinct : (Tree.directory entries).Distinct)
    (hfits : ∀ dir ∈ (Tree.directory entries).directories, Fits path dir) :
    m.run (a.list container).run = (.ok (Tree.directory entries).blobNames, m) := by
  obtain ⟨names, paths, hfound, -, hgoes⟩ := Listing.exists_goes_of_reads m _ rfl hdistinct path ""
    [] [] fun _ _ => reads_of_fits hlook hdistinct hfits
  have hcollect : m.run (Listing.start path).collect = (.ok names, m) := by
    have hrun := hgoes.run_collect
    rwa [List.nil_append, Listing.collect_nil] at hrun
  rw [run_list_eq hpath hlook, hcollect]
  refine Prod.ext (congrArg Except.ok ?_) rfl
  exact mergeSort_eq_of_perm hfound

/-- Each directory of a container is asked for once. -/
lemma exists_asked_list (hpath : a.containerPath container = .ok path)
    (hlook : m.look path = .ok (location, .directory entries))
    (hdistinct : (Tree.directory entries).Distinct)
    (hfits : ∀ dir ∈ (Tree.directory entries).directories, Fits path dir) :
    ∃ paths : List Path, paths.Perm ((Tree.directory entries).directories.map path.append) ∧
      (a.list container).run.asked Machine.answer m =
        .isThere path :: paths.map Request.readDirectory := by
  obtain ⟨names, paths, -, hpaths, hgoes⟩ := Listing.exists_goes_of_reads m _ rfl hdistinct path ""
    [] [] fun _ _ => reads_of_fits hlook hdistinct hfits
  refine ⟨paths, hpaths, ?_⟩
  have hasked := hgoes.asked_collect
  rw [Listing.collect_nil, Program.asked, List.append_nil] at hasked
  rw [Account.list_eq hpath, Program.asked, answer_isThere_of_look hlook]
  dsimp only
  rw [Program.asked_bind, Program.asked, List.append_nil]
  exact congrArg _ hasked

/-! ## What a listing that succeeds has read -/

/-- Paths that are all short do not go on for ever. -/
lemma false_of_detour {P : Path → Prop} {detour : List Name} (hdetour : detour ≠ [])
    (hshort : ∀ path, P path → path.size ≤ longestPath)
    (hnext : ∀ path, P path → P (path.append detour)) (hpath : P path) : False := by
  have hlong : ∀ n : ℕ, ∃ path, P path ∧ n ≤ path.names.length := by
    intro n
    induction n with
    | zero => exact ⟨path, hpath, Nat.zero_le _⟩
    | succ n ih =>
      obtain ⟨path, hpath, hn⟩ := ih
      refine ⟨path.append detour, hnext path hpath, ?_⟩
      have hpositive := List.length_pos_iff.mpr hdetour
      rw [Path.append_names, List.length_append]
      omega
  obtain ⟨path, hpath, hn⟩ := hlong (longestPath + 2)
  have hlength := path.length_le_size
  have hsize := hshort path hpath
  omega

/-- Paths of directories that were all read, with the directories in them. -/
structure AllRead (m : Machine) (paths : List Path) : Prop where
  reads : ∀ path ∈ paths, ∃ entries, m.Reads path entries ∧
    ∀ name inner, (name, Tree.directory inner) ∈ entries → path.child name ∈ paths

namespace AllRead

variable {paths : List Path} {inner : Tree.Entries ByteArray} {name : Name}

/-- All directories that a listing met were read. -/
lemma of_goes {l : Listing} {found : List String} (h : Listing.Goes m l paths ⟨[], found⟩) :
    AllRead m paths where
  reads path hpath := by
    obtain ⟨reading, hread, hinner⟩ := h.closed.2 path hpath
    obtain ⟨entries, hreads, hentries⟩ :=
      Machine.exists_readDirectory_eq_ok_iff.mp ⟨reading, hread, rfl⟩
    refine ⟨entries, hreads, fun name inner hmem => hinner name ?_⟩
    rw [hentries]
    exact List.mem_map.mpr ⟨(name, .directory inner), hmem, rfl⟩

/-- The directories in a directory that was read were read. -/
lemma child_mem (h : AllRead m paths) (hpath : path ∈ paths)
    (hlook : m.look path = .ok (location, .directory entries))
    (hmem : (name, Tree.directory inner) ∈ entries) : path.child name ∈ paths := by
  obtain ⟨others, ⟨found, hfound⟩, hothers⟩ := h.reads path hpath
  rw [hlook] at hfound
  cases hfound
  exact hothers name inner hmem

/-- A directory that was read is what stands at its location. -/
lemma look_of_locate (h : AllRead m paths) (hpath : path ∈ paths)
    (hlocate : ∀ found, m.locate path = .ok found → found = location)
    (hget : m.tree.get? location = some (.directory entries)) :
    m.look path = .ok (location, .directory entries) := by
  obtain ⟨others, ⟨found, hfound⟩, -⟩ := h.reads path hpath
  obtain ⟨hfound, hothers⟩ := Machine.look_eq_ok_iff.mp hfound
  obtain rfl := hlocate found hfound
  exact Machine.look_eq_ok_iff.mpr ⟨hfound, hget⟩

/-- No directory that was read has one in it by the name of itself. -/
lemma not_self_mem (h : AllRead m paths) (hpath : path ∈ paths)
    (hlook : m.look path = .ok (location, .directory entries)) :
    (Name.self, Tree.directory inner) ∉ entries := by
  intro hself
  refine false_of_detour (P := fun path => path ∈ paths ∧
    m.look path = .ok (location, .directory entries)) (List.cons_ne_nil Name.self [])
    (fun path hpath => (walk_of_look hpath.2).2.2) ?_ ⟨hpath, hlook⟩
  rintro path ⟨hpath, hlook⟩
  have hmem := h.child_mem hpath hlook hself
  refine ⟨hmem, h.look_of_locate hmem (fun found hfound => ?_) (Machine.look_eq_ok_iff.mp hlook).2⟩
  have hwalk := (Machine.enters_of_look hlook rfl).walk_of_locate (List.cons_ne_nil _ _) hfound
  exact (Except.ok.inj hwalk).symm

/-- No directory that was read has one in it by the name of the directory that it is in. -/
lemma not_parent_mem {dir : Location} {last : Name} (h : AllRead m paths) (hpath : path ∈ paths)
    (hlast : last.IsPlain) (hlook : m.look path = .ok (dir ++ [last], .directory entries)) :
    (Name.parent, Tree.directory inner) ∉ entries := by
  intro hparent
  -- from the directory one gets up and back down again
  refine false_of_detour (P := fun path => path ∈ paths ∧
    m.look path = .ok (dir ++ [last], .directory entries)) (List.cons_ne_nil Name.parent [last])
    (fun path hpath => (walk_of_look hpath.2).2.2) ?_ ⟨hpath, hlook⟩
  rintro path ⟨hpath, hlook⟩
  have hget := (Machine.look_eq_ok_iff.mp hlook).2
  have hup := h.child_mem hpath hlook hparent
  have hdir : m.tree.peek dir = some .directory :=
    Tree.peek_of_append (List.cons_ne_nil last []) (by
      rw [Tree.peek_eq_directory_iff.mpr ⟨entries, hget⟩]
      exact Option.some_ne_none _)
  obtain ⟨above, habove⟩ := Tree.peek_eq_directory_iff.mp hdir
  have hlookup := h.look_of_locate hup (fun found hfound => by
    have hwalk := (Machine.enters_of_look hlook rfl).walk_of_locate (List.cons_ne_nil _ _) hfound
    have hdrop : (dir ++ [last]).dropLast = dir := List.dropLast_concat
    rw [← hdrop]
    exact (Except.ok.inj hwalk).symm) habove
  have hchild : Tree.child? above last = some (.directory entries) := by
    rw [Tree.get?_append, habove, Option.bind_some, Tree.get?_directory_singleton] at hget
    exact hget
  have hdown := h.child_mem hup hlookup (Tree.mem_of_child? hchild)
  have heq : (path.child Name.parent).child last = path.append [Name.parent, last] :=
    Path.append_append ..
  rw [heq] at hdown
  refine ⟨hdown, h.look_of_locate hdown (fun found hfound => ?_) hget⟩
  rw [← heq] at hfound
  have hwalk := (Machine.enters_of_look hlookup rfl).walk_of_locate (List.cons_ne_nil _ _) hfound
  exact Machine.eq_of_toward hlast hwalk

/-- Below a directory that was read all directories were read, each by a path that fits. -/
lemma fits (h : AllRead m paths) (hpath : path ∈ paths) {dir : Location} {last : Name}
    (hlast : last.IsPlain) (hlook : m.look path = .ok (dir ++ [last], .directory entries))
    (hget : (Tree.directory entries).get? names = some (.directory inner)) :
    Fits path names ∧ path.append names ∈ paths := by
  induction names using List.reverseRecOn generalizing inner with
  | nil =>
    obtain ⟨-, hnul, hshort⟩ := walk_of_look hlook
    rw [Path.append_nil]
    exact ⟨⟨by simp, by rwa [Path.append_nil], by rwa [Path.append_nil]⟩, hpath⟩
  | append_singleton names name ih =>
    obtain ⟨child, hchild, hinner⟩ := Option.bind_eq_some_iff.mp
      ((Tree.get?_append _ names [name]).symm.trans hget)
    cases child with
    | file content => cases hinner
    | directory others =>
      obtain ⟨hfits, hmem⟩ := ih hchild
      have hothers := Machine.look_append hlook hfits hchild
      rw [Tree.get?_directory_singleton] at hinner
      have hentry := Tree.mem_of_child? hinner
      -- the names so far are plain, so is the last of them
      obtain ⟨above, end', hend, hlocation⟩ : ∃ above end', Name.IsPlain end' ∧
          dir ++ [last] ++ names = above ++ [end'] := by
        rcases List.eq_nil_or_concat names with rfl | ⟨front, end', rfl⟩
        · exact ⟨dir, last, hlast, List.append_nil _⟩
        · rw [List.concat_eq_append] at hfits ⊢
          exact ⟨dir ++ [last] ++ front, end', (hfits.plain end' (by simp)).1,
            (List.append_assoc ..).symm⟩
      have hplain : name.IsPlain := by
        constructor
        · rintro rfl
          exact h.not_self_mem hmem hothers hentry
        · rintro rfl
          rw [hlocation] at hothers
          exact h.not_parent_mem hmem hend hothers hentry
      have hnext := h.child_mem hmem hothers hentry
      have heq : (path.append names).child name = path.append (names ++ [name]) :=
        Path.append_append ..
      rw [heq] at hnext
      obtain ⟨_, ⟨_, hfound⟩, -⟩ := h.reads _ hnext
      refine ⟨Machine.Enters.fits_of_locate (fun other hother => ?_)
        (Machine.look_eq_ok_iff.mp hfound).1, hnext⟩
      rcases List.mem_append.mp hother with hother | hother
      · exact (hfits.plain other hother).1
      · rw [List.mem_singleton.mp hother]
        exact hplain

end AllRead

/-- The location of a container ends in its name. -/
lemma exists_location_of_look {t : Tree ByteArray} (hpath : a.containerPath container = .ok path)
    (hlook : m.look path = .ok (location, t)) :
    ∃ dir, location = dir ++ [container.toUTF8] := by
  obtain ⟨hplain, rfl⟩ := Account.eq_of_containerPath hpath
  exact Machine.exists_of_locate_child hplain (Machine.look_eq_ok_iff.mp hlook).1

/-- Below a container that is listed the file system takes the paths of all directories. -/
lemma fits_of_list (hpath : a.containerPath container = .ok path)
    (hlook : m.look path = .ok (location, .directory entries))
    (hdistinct : (Tree.directory entries).Distinct) {listed : List String}
    (hlist : (m.run (a.list container).run).1 = .ok listed) :
    ∀ dir ∈ (Tree.directory entries).directories, Fits path dir := by
  intro dir hdir
  obtain ⟨inner, hget⟩ := (Tree.mem_directories_iff hdistinct).mp hdir
  obtain ⟨above, rfl⟩ := exists_location_of_look hpath hlook
  rcases Listing.exists_goes m (Listing.start path) with ⟨paths, found, hgoes⟩ |
    ⟨paths, other, _, pending, found, fault, hgoes, hread⟩
  · exact ((AllRead.of_goes hgoes).fits (hgoes.closed.1 (path, "") (List.mem_singleton_self _))
      (Account.eq_of_containerPath hpath).1 hlook hget).1
  · rw [run_list_eq hpath hlook, hgoes.run_collect, Listing.run_collect_of_error hread] at hlist
    cases hlist

/-- A container that is listed is a directory that was found. -/
lemma exists_look_of_list {listed : List String}
    (hlist : (m.run (a.list container).run).1 = .ok listed) :
    ∃ path location entries, a.containerPath container = .ok path ∧
      m.look path = .ok (location, .directory entries) := by
  have hlisted := hlist
  unfold Account.list at hlisted
  obtain ⟨path, hpresent, -⟩ := Machine.run_attempt_bind_eq_ok_iff.mp hlisted
  by_cases hname : isEntryName container = true
  · have hpath := containerPath_eq a hname
    rw [run_presentContainer_accepted m a hname] at hpresent
    cases hthere : m.isThere (a.root.append [container.toUTF8]) with
    | error fault =>
      rw [hthere] at hpresent
      cases hpresent
    | ok there =>
      rw [hthere] at hpresent
      cases there with
      | false => cases hpresent
      | true =>
        obtain ⟨location, t, hlook⟩ := Machine.isThere_eq_true_iff.mp hthere
        cases t with
        | directory entries => exact ⟨_, location, entries, hpath, hlook⟩
        | file content =>
          -- a file cannot be read as a directory
          rw [run_list_eq hpath hlook, Listing.start,
            Listing.run_collect_of_error (Machine.readDirectory_of_file hlook)] at hlist
          cases hlist
  · rw [run_presentContainer_refused m a hname] at hpresent
    cases hpresent

/-- A container is listed exactly if the file system takes the paths of all directories below it. -/
lemma list_eq_ok_iff_of_look (hpath : a.containerPath container = .ok path)
    (hlook : m.look path = .ok (location, .directory entries))
    (hdistinct : (Tree.directory entries).Distinct) {listed : List String} :
    (m.run (a.list container).run).1 = .ok listed ↔
      (∀ dir ∈ (Tree.directory entries).directories, Fits path dir) ∧
        listed = (Tree.directory entries).blobNames := by
  constructor
  · intro hlist
    have hfits := fits_of_list hpath hlook hdistinct hlist
    rw [run_list_of_fits hpath hlook hdistinct hfits] at hlist
    exact ⟨hfits, (Except.ok.inj hlist).symm⟩
  · rintro ⟨hfits, rfl⟩
    rw [run_list_of_fits hpath hlook hdistinct hfits]

/-! ## Listings that fail -/

/-- A name as a file system holds it: it leads to an entry, it is not too long and has no zero byte. -/
structure Name.IsStored (name : Name) : Prop where
  plain : name.IsPlain
  size_le : name.size ≤ longestName
  noNul : 0 ∉ name.toList

/-- Names that are stored bring no zero byte into a path. -/
lemma hasNul_append_of_isStored (hnul : path.hasNul = false)
    (hnames : ∀ name ∈ names, name.IsStored) : (path.append names).hasNul = false := by
  unfold Path.hasNul at hnul ⊢
  rw [Path.append_names, List.any_append, hnul, Bool.false_or, List.any_eq_false]
  intro name hname
  simpa using (hnames name hname).noNul

/-- Names that are stored fit where the path does not get too long. -/
lemma fits_of_isStored (hnul : path.hasNul = false) (hnames : ∀ name ∈ names, name.IsStored)
    (hshort : (path.append names).size ≤ longestPath) : Fits path names where
  plain name hname := ⟨(hnames name hname).plain, (hnames name hname).size_le⟩
  noNul := hasNul_append_of_isStored hnul hnames
  short := hshort

/-- A path of a directory below another one. -/
def LeadsInside (path : Path) (entries : Tree.Entries ByteArray) (other : Path) : Prop :=
  ∃ names inner, (Tree.directory entries).get? names = some (.directory inner) ∧
    other = path.append names

section Stored

variable (hlook : m.look path = .ok (location, .directory entries))
  (hdistinct : (Tree.directory entries).Distinct)
  (hnames : ∀ dir ∈ (Tree.directory entries).directories, ∀ name ∈ dir, name.IsStored)

include hlook hdistinct hnames

/-- The path of a directory below leads there unless it is too long. -/
lemma look_inside {inner : Tree.Entries ByteArray}
    (hget : (Tree.directory entries).get? names = some (.directory inner)) :
    m.look (path.append names) =
      if (path.append names).size ≤ longestPath then .ok (location ++ names, .directory inner)
      else .error .nameTooLong := by
  have hstored := hnames names ((Tree.mem_directories_iff hdistinct).mpr ⟨inner, hget⟩)
  obtain ⟨-, hnul, -⟩ := walk_of_look hlook
  split
  · next hshort => exact Machine.look_append hlook (fits_of_isStored hnul hstored hshort) hget
  · next hlong =>
    exact Machine.look_of_long (hasNul_append_of_isStored hnul hstored) (Nat.not_le.mp hlong)

/-- The directories in a directory below are below as well. -/
lemma leadsInside_child {other : Path} {reading : Reading other} {name : Name}
    (hother : LeadsInside path entries other) (hread : m.readDirectory other = .ok reading)
    (hname : (name, true) ∈ reading.entries) : LeadsInside path entries (other.child name) := by
  obtain ⟨names, inner, hget, rfl⟩ := hother
  obtain ⟨others, ⟨found, hfound⟩, hentries⟩ :=
    Machine.exists_readDirectory_eq_ok_iff.mp ⟨reading, hread, rfl⟩
  have hshort := (walk_of_look hfound).2.2
  rw [look_inside hlook hdistinct hnames hget, if_pos hshort] at hfound
  cases hfound
  rw [hentries] at hname
  obtain ⟨⟨other, child⟩, hmem, heq⟩ := List.mem_map.mp hname
  cases child with
  | file content => cases heq
  | directory last =>
    cases heq
    obtain ⟨hnodup, -⟩ := Tree.distinct_directory_iff.mp (hdistinct.part hget)
    refine ⟨names ++ [other], last, ?_, Path.append_append ..⟩
    rw [Tree.get?_append, hget, Option.bind_some, Tree.get?_directory_singleton]
    exact Tree.child?_of_mem hnodup hmem

/-- Where names are as a file system holds them, a listing fails only because the path of a directory
is too long, and then it does. -/
lemma run_list_of_long (hpath : a.containerPath container = .ok path)
    (hlong : ¬∀ dir ∈ (Tree.directory entries).directories, (path.append dir).size ≤ longestPath) :
    m.run (a.list container).run = (.error (.disk .nameTooLong), m) := by
  rcases Listing.exists_goes m (Listing.start path) with ⟨paths, found, hgoes⟩ |
    ⟨paths, other, _, pending, found, fault, hgoes, hfault⟩
  · have hlist : (m.run (a.list container).run).1 = .ok found.mergeSort := by
      rw [run_list_eq hpath hlook, hgoes.run_collect, Listing.collect_nil]
      rfl
    exact absurd (fun dir hdir => (fits_of_list hpath hlook hdistinct hlist dir hdir).short) hlong
  · have hmet := hgoes.forall_pending (P := LeadsInside path entries)
      (List.forall_mem_singleton.mpr ⟨[], entries, rfl, (Path.append_nil _).symm⟩)
      fun _ _ _ hother => leadsInside_child hlook hdistinct hnames hother
    obtain ⟨names, inner, hget, rfl⟩ := hmet _ List.mem_cons_self
    have hlookup := look_inside hlook hdistinct hnames hget
    split at hlookup
    · obtain ⟨reading, hreading, -⟩ :=
        Machine.exists_readDirectory_eq_ok_iff.mpr ⟨inner, ⟨_, hlookup⟩, rfl⟩
      rw [hfault] at hreading
      cases hreading
    · rw [Machine.readDirectory_of_error hlookup] at hfault
      cases hfault
      rw [run_list_eq hpath hlook, hgoes.run_collect,
        Listing.run_collect_of_error (Machine.readDirectory_of_error hlookup)]
      rfl

end Stored

end ClaimCheck.Disk
