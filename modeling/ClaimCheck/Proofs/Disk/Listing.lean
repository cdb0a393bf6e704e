import Mathlib
import ClaimCheck.Proofs.Disk.Names
import ClaimCheck.Proofs.Disk.Tree
import ClaimCheck.Proofs.Program

/-!
# What a listing finds

A listing goes on from one directory to the next (`Listing.Goes`).  Where the path of each directory
below a tree leads to it, all of them are read, each once, and every file is found, under the names that
lead to it (`Listing.exists_goes_of_reads`).  So the names do not depend on the order in which the entries
of each directory are read (`Tree.Reorders.blobNames_eq`).

In any case a listing goes on until nothing is pending or a directory cannot be read
(`Listing.exists_goes`).  When nothing is left, all directories that were met have been read
(`Listing.Goes.closed`), and whatever is replied, no others are (`Listing.asksAfter_collect`).
-/

namespace ClaimCheck.Disk

open Text

variable {α : Type}

/-! ## Names -/

/-- The name of a file in a listing: one name of an entry behind the other. -/
def listedName (location : Location) : String := location.foldl entryName ""

/-- The names of the files below a tree, increasing. -/
def Tree.blobNames (t : Tree α) : List String :=
  (t.files.map fun file => listedName file.1).mergeSort

/-- Behind the first name every further one comes after a slash. -/
lemma toList_foldl_entryName {dir : String} (hdir : dir ≠ "") (pieces : List (List Char)) :
    ((pieces.map Name.ofChars).foldl entryName dir).toList =
      dir.toList ++ pieces.flatMap ('/' :: ·) := by
  induction pieces generalizing dir with
  | nil => simp
  | cons piece pieces ih =>
    have hname : entryName dir (Name.ofChars piece) = dir ++ "/" ++ String.ofList piece := by
      have hempty : ¬ dir.isEmpty := by simpa using hdir
      unfold entryName
      rw [Name.decodeLossy_ofChars, if_neg hempty]
    have hne : dir ++ "/" ++ String.ofList piece ≠ "" := by
      intro heq
      have := congrArg String.toList heq
      simp at this
    rw [List.map_cons, List.foldl_cons, hname, ih hne, List.flatMap_cons]
    simp

/-- The names of entries are joined by slashes. -/
lemma listedName_map_ofChars {pieces : List (List Char)} (h : ∀ piece ∈ pieces, piece ≠ []) :
    listedName (pieces.map Name.ofChars) = String.ofList (join '/' pieces) := by
  apply String.toList_injective
  rw [String.toList_ofList]
  cases pieces with
  | nil => rfl
  | cons piece pieces =>
    have hne : String.ofList piece ≠ "" := by
      intro heq
      exact h piece List.mem_cons_self (by simpa using congrArg String.toList heq)
    have hname : entryName "" (Name.ofChars piece) = String.ofList piece := by
      unfold entryName
      rw [Name.decodeLossy_ofChars]
      rfl
    unfold listedName
    rw [List.map_cons, List.foldl_cons, hname, toList_foldl_entryName hne, join,
      String.toList_ofList]

/-- A blob is listed under its name. -/
lemma listedName_of_segments {name : String} {names : Location}
    (h : Account.segments name = .ok names) : listedName names = name := by
  obtain ⟨hplain, rfl⟩ := segments_eq_ok_iff.mp h
  have hne : ∀ part ∈ parts name, part ≠ [] := by
    rintro part hpart rfl
    exact absurd (hplain [] hpart) (by decide)
  rw [listedName_map_ofChars hne, parts, join_pieces, String.ofList_toList]

/-! ## Reading directories -/

/-- A path leads to a directory of these entries. -/
def Machine.Reads (m : Machine) (path : Path) (entries : Tree.Entries ByteArray) : Prop :=
  ∃ location, m.look path = .ok (location, .directory entries)

/-- A directory is read where the path leads to it. -/
lemma Machine.exists_readDirectory_eq_ok_iff {m : Machine} {path : Path}
    {listed : List (Name × Bool)} :
    (∃ reading, m.readDirectory path = .ok reading ∧ reading.entries = listed) ↔
      ∃ entries, m.Reads path entries ∧
        listed = entries.map fun entry => (entry.1, entry.2.isDirectory) := by
  unfold Machine.readDirectory Machine.Reads
  constructor
  · rintro ⟨reading, hread, rfl⟩
    split at hread
    · cases hread
    · cases hread
    · next location entries hlook =>
      cases hread
      exact ⟨entries, ⟨location, hlook⟩, rfl⟩
  · rintro ⟨entries, ⟨location, hlook⟩, rfl⟩
    split
    · next fault hfault =>
      rw [hlook] at hfault
      cases hfault
    · next other content hfile =>
      rw [hlook] at hfile
      cases hfile
    · next other inner hdir =>
      rw [hlook] at hdir
      cases hdir
      exact ⟨_, rfl, rfl⟩

/-- A directory is not read where the path leads nowhere. -/
lemma Machine.readDirectory_of_error {m : Machine} {path : Path} {fault : Fault}
    (hlook : m.look path = .error fault) : m.readDirectory path = .error fault := by
  unfold Machine.readDirectory
  grind

/-- A file is not read as a directory. -/
lemma Machine.readDirectory_of_file {m : Machine} {path : Path} {location : Location}
    {content : ByteArray} (hlook : m.look path = .ok (location, .file content)) :
    m.readDirectory path = .error .notDirectory := by
  unfold Machine.readDirectory
  grind

namespace Listing

variable {m : Machine} {l l' l'' : Listing} {paths paths' : List Path} {path : Path} {dir : String}
  {pending : List (Path × String)} {found : List String}

/-- What is pending once the entries of a directory were noted: its directories, and what was pending
before. -/
lemma mem_pending_noteAll {entries : List (Name × Bool)} {other : Path × String} :
    other ∈ (l.noteAll path dir entries).pending ↔ other ∈ l.pending ∨
      ∃ name, (name, true) ∈ entries ∧ other = (path.child name, entryName dir name) := by
  induction entries generalizing l with
  | nil => simp [noteAll]
  | cons entry rest ih =>
    obtain ⟨name, isDirectory⟩ := entry
    change other ∈ ((l.note path dir (name, isDirectory)).noteAll path dir rest).pending ↔ _
    rw [ih]
    cases isDirectory with
    | false => simp [note]
    | true =>
      simp only [note, if_true, List.mem_cons, Prod.mk.injEq, and_true, or_assoc]
      constructor
      · rintro (heq | hpending | ⟨name', hmem, heq⟩)
        · exact .inr ⟨name, .inl rfl, heq⟩
        · exact .inl hpending
        · exact .inr ⟨name', .inr hmem, heq⟩
      · rintro (hpending | ⟨name', rfl | hmem, heq⟩)
        · exact .inr (.inl hpending)
        · exact .inl heq
        · exact .inr (.inr ⟨name', hmem, heq⟩)

/-- A listing goes on as another one once directories were read, by these paths in order. -/
inductive Goes (m : Machine) : Listing → List Path → Listing → Prop
  | refl (l : Listing) : Goes m l [] l
  | read {path : Path} {dir : String} {pending : List (Path × String)} {found : List String}
      {reading : Reading path} {paths : List Path} {l : Listing}
      (hread : m.readDirectory path = .ok reading)
      (hrest : Goes m (noteAll path dir ⟨pending, found⟩ reading.entries) paths l) :
      Goes m ⟨(path, dir) :: pending, found⟩ (path :: paths) l

/-- A listing goes on and on. -/
lemma Goes.trans (h : Goes m l paths l') (h' : Goes m l' paths' l'') :
    Goes m l (paths ++ paths') l'' := by
  induction h with
  | refl l => exact h'
  | read hread _ ih => exact .read hread (ih h')

/-- A listing collects what it goes on to collect. -/
lemma Goes.run_collect (h : Goes m l paths l') : m.run l.collect = m.run l'.collect := by
  induction h with
  | refl l => rfl
  | @read path dir pending found reading paths l hread _ ih =>
    have hanswer : Machine.answer (.readDirectory path) m = (.ok reading, m) :=
      Prod.ext hread rfl
    rw [collect]
    unfold Machine.run at ih ⊢
    rw [Program.run_ask, hanswer]
    exact ih

/-- A listing asks for the directories by which it goes on. -/
lemma Goes.asked_collect (h : Goes m l paths l') :
    l.collect.asked Machine.answer m =
      paths.map Request.readDirectory ++ l'.collect.asked Machine.answer m := by
  induction h with
  | refl l => rfl
  | @read path dir pending found reading paths l hread _ ih =>
    have hanswer : Machine.answer (.readDirectory path) m = (.ok reading, m) :=
      Prod.ext hread rfl
    rw [collect, Program.asked, hanswer, List.map_cons, List.cons_append]
    exact congrArg _ ih

/-- A listing under which nothing is pending has collected what it found. -/
lemma collect_nil (found : List String) : collect ⟨[], found⟩ = .done (.ok found) := by
  rw [collect]

/-- A listing ends where a directory cannot be read. -/
lemma run_collect_of_error {fault : Fault} (hread : m.readDirectory path = .error fault) :
    m.run (collect ⟨(path, dir) :: pending, found⟩) = (.error fault, m) := by
  have hanswer : Machine.answer (.readDirectory path) m = (.error fault, m) := Prod.ext hread rfl
  rw [collect]
  unfold Machine.run
  rw [Program.run_ask, hanswer]
  rfl

/-- A listing goes on until nothing is pending or a directory cannot be read. -/
lemma exists_goes (m : Machine) (l : Listing) :
    (∃ paths found, Goes m l paths ⟨[], found⟩) ∨
      ∃ paths path dir pending found fault, Goes m l paths ⟨(path, dir) :: pending, found⟩ ∧
        m.readDirectory path = .error fault := by
  induction l using collect.induct with
  | case1 found => exact .inl ⟨[], found, .refl _⟩
  | case2 path dir pending found ih =>
    cases hread : m.readDirectory path with
    | error fault => exact .inr ⟨[], path, dir, pending, found, fault, .refl _, hread⟩
    | ok reading =>
      rcases ih reading with ⟨paths, last, hgoes⟩ | ⟨paths, other, last, more, names, fault, hgoes, h⟩
      · exact .inl ⟨_, last, .read hread hgoes⟩
      · exact .inr ⟨_, other, last, more, names, fault, .read hread hgoes, h⟩

/-- When nothing is pending any more, all directories that were met were read. -/
lemma Goes.closed (h : Goes m l paths ⟨[], found⟩) :
    (∀ other ∈ l.pending, other.1 ∈ paths) ∧
      ∀ path ∈ paths, ∃ reading, m.readDirectory path = .ok reading ∧
        ∀ name, (name, true) ∈ reading.entries → path.child name ∈ paths := by
  generalize hlast : (⟨[], found⟩ : Listing) = last at h
  induction h with
  | refl l =>
    subst hlast
    simp
  | @read path dir pending found reading paths l hread _ ih =>
    obtain ⟨hpending, hpaths⟩ := ih hlast
    have hinner : ∀ name, (name, true) ∈ reading.entries → path.child name ∈ paths :=
      fun name hname => hpending _ (mem_pending_noteAll.mpr (.inr ⟨name, hname, rfl⟩))
    refine ⟨fun other hother => ?_, fun other hother => ?_⟩
    · rcases List.mem_cons.mp hother with rfl | hother
      · exact List.mem_cons_self
      · exact List.mem_cons_of_mem _ (hpending _ (mem_pending_noteAll.mpr (.inl hother)))
    · rcases List.mem_cons.mp hother with rfl | hother
      · exact ⟨reading, hread, fun name hname => List.mem_cons_of_mem _ (hinner name hname)⟩
      · obtain ⟨inside, hinside, hclosed⟩ := hpaths other hother
        exact ⟨inside, hinside, fun name hname => List.mem_cons_of_mem _ (hclosed name hname)⟩

/-- What is true of the first directories and goes over to those in them is true of all that are
met. -/
lemma Goes.forall_pending {P : Path → Prop} (h : Goes m l paths l')
    (hfirst : ∀ other ∈ l.pending, P other.1)
    (hinner : ∀ path reading name, P path → m.readDirectory path = .ok reading →
      (name, true) ∈ reading.entries → P (path.child name)) :
    ∀ other ∈ l'.pending, P other.1 := by
  induction h with
  | refl l => exact hfirst
  | read hread _ ih =>
    refine ih fun other hother => ?_
    rcases mem_pending_noteAll.mp hother with hother | ⟨name, hname, rfl⟩
    · exact hfirst other (List.mem_cons_of_mem _ hother)
    · exact hinner _ _ name (hfirst _ List.mem_cons_self) hread hname

mutual

/-- A directory below which each path leads to its directory is read with all that is below it. -/
lemma exists_goes_of_reads (m : Machine) : (t : Tree ByteArray) → t.isDirectory = true →
    t.Distinct → ∀ path dir pending found,
    (∀ names inner, t.get? names = some (.directory inner) → m.Reads (path.append names) inner) →
    ∃ names paths, names.Perm (t.files.map fun file => file.1.foldl entryName dir) ∧
      paths.Perm (t.directories.map path.append) ∧
      Goes m ⟨(path, dir) :: pending, found⟩ paths ⟨pending, found ++ names⟩
  | .file _, hdir => by cases hdir
  | .directory entries, _ => by
    intro hdistinct path dir pending found hreads
    obtain ⟨hnames, hentries⟩ := Tree.distinct_directory_iff.mp hdistinct
    have hfirst := hreads [] entries rfl
    rw [Path.append_nil] at hfirst
    obtain ⟨reading, hread, hlisted⟩ :=
      Machine.exists_readDirectory_eq_ok_iff.mpr ⟨entries, hfirst, rfl⟩
    obtain ⟨names, paths, hfound, hpaths, hgoes⟩ := exists_goes_of_entries m entries hentries path
      dir ⟨pending, found⟩ fun entry hentry names inner hget => hreads _ _ (by
        rw [Tree.get?_directory_cons, Tree.child?_of_mem hnames hentry]
        exact hget)
    refine ⟨names, path :: paths, hfound, ?_, .read hread (hlisted ▸ hgoes)⟩
    rw [Tree.directories, List.map_cons, Path.append_nil]
    exact hpaths.cons path

/-- Entries of a directory below which each path leads to its directory are noted and read. -/
lemma exists_goes_of_entries (m : Machine) : (entries : Tree.Entries ByteArray) →
    (∀ entry ∈ entries, entry.2.Distinct) → ∀ path dir (l : Listing),
    (∀ entry ∈ entries, ∀ names inner, entry.2.get? names = some (.directory inner) →
      m.Reads (path.append (entry.1 :: names)) inner) →
    ∃ names paths,
      names.Perm ((Tree.filesOf entries).map fun file => file.1.foldl entryName dir) ∧
      paths.Perm ((Tree.directoriesOf entries).map path.append) ∧
      Goes m (l.noteAll path dir (entries.map fun entry => (entry.1, entry.2.isDirectory))) paths
        ⟨l.pending, l.found ++ names⟩
  | [], _, _, _, l, _ => ⟨[], [], .nil, .nil, by rw [List.append_nil]; exact .refl l⟩
  | (name, .file content) :: rest, hdistinct, path, dir, l, hreads => by
    rw [List.forall_mem_cons] at hdistinct hreads
    obtain ⟨names, paths, hfound, hpaths, hgoes⟩ := exists_goes_of_entries m rest hdistinct.2 path
      dir { l with found := l.found ++ [entryName dir name] } hreads.2
    refine ⟨entryName dir name :: names, paths, ?_, hpaths, ?_⟩
    · rw [Tree.filesOf, List.map_append]
      exact hfound.cons _
    · rw [List.append_cons]
      exact hgoes
  | (name, .directory inner) :: rest, hdistinct, path, dir, l, hreads => by
    rw [List.forall_mem_cons] at hdistinct hreads
    obtain ⟨names, paths, hfound, hpaths, hgoes⟩ := exists_goes_of_entries m rest hdistinct.2 path
      dir { l with pending := (path.child name, entryName dir name) :: l.pending } hreads.2
    -- the directory came before the rest, so it is read after the rest
    obtain ⟨names', paths', hfound', hpaths', hgoes'⟩ := exists_goes_of_reads m (.directory inner) rfl
      hdistinct.1 (path.child name) (entryName dir name) l.pending (l.found ++ names) (by
        intro names entries hget
        unfold Path.child
        rw [Path.append_append]
        exact hreads.1 names entries hget)
    refine ⟨names ++ names', paths ++ paths', ?_, ?_, ?_⟩
    · rw [Tree.filesOf, List.map_append, List.map_map]
      exact (hfound.append hfound').trans List.perm_append_comm
    · rw [Tree.directoriesOf, List.map_append, List.map_map]
      refine (hpaths.append hpaths').trans (List.perm_append_comm.trans (.of_eq ?_))
      simp [Path.child, Function.comp_def]
    · rw [← List.append_assoc]
      exact hgoes.trans hgoes'

end

end Listing

/-! ## What a listing asks -/

/-- The directories that were met from a first one on, each as an entry of one that was read. -/
inductive IsMet (past : Program.Past Request Request.Reply) (first : Path) : Path → Prop
  | here : IsMet past first first
  | inside {path : Path} {reading : Reading path} {name : Name} (hpath : IsMet past first path)
      (hread : (⟨.readDirectory path, .ok reading⟩ : Σ r : Request, r.Reply) ∈ past)
      (hname : (name, true) ∈ reading.entries) : IsMet past first (path.child name)

/-- What was met stays met. -/
lemma IsMet.mono {past later : Program.Past Request Request.Reply} {first path : Path}
    (h : IsMet past first path) (hlater : past <:+ later) : IsMet later first path := by
  induction h with
  | here => exact .here
  | inside _ hread hname ih => exact .inside ih (hlater.subset hread) hname

/-- Whatever is replied, a listing reads only directories that were met. -/
lemma Listing.asksAfter_collect {kind : Program.Past Request Request.Reply → Request → Prop}
    {first : Path} (hkind : ∀ past path, IsMet past first path → kind past (.readDirectory path))
    (l : Listing) {past : Program.Past Request Request.Reply}
    (hpending : ∀ other ∈ l.pending, IsMet past first other.1) : l.collect.AsksAfter kind past := by
  induction l using collect.induct generalizing past with
  | case1 found =>
    rw [collect]
    trivial
  | case2 path dir pending found ih =>
    have hpath := hpending _ List.mem_cons_self
    rw [collect]
    refine ⟨hkind past path hpath, fun reply => ?_⟩
    rcases reply with fault | reading
    · trivial
    · refine ih reading fun other hother => ?_
      rcases mem_pending_noteAll.mp hother with hother | ⟨name, hname, rfl⟩
      · exact (hpending other (List.mem_cons_of_mem _ hother)).mono (List.suffix_cons _ _)
      · exact .inside (hpath.mono (List.suffix_cons _ _)) List.mem_cons_self hname

/-! ## Order -/

namespace Tree

/-- The files below entries, entry by entry. -/
lemma filesOf_eq_flatMap (entries : Entries α) :
    filesOf entries = entries.flatMap fun entry =>
      entry.2.files.map fun file => (entry.1 :: file.1, file.2) := by
  induction entries with
  | nil => rfl
  | cons entry rest ih => rw [filesOf, ih, List.flatMap_cons]

/-- The same tree, with the entries of its directories in another order. -/
inductive Reorders : Tree α → Tree α → Prop
  | refl (t : Tree α) : Reorders t t
  | permuted {entries entries' : Entries α} (hperm : entries.Perm entries') :
    Reorders (directory entries) (directory entries')
  | inside {front rest : Entries α} {name : Name} {t t' : Tree α} (hinside : Reorders t t') :
    Reorders (directory (front ++ (name, t) :: rest)) (directory (front ++ (name, t') :: rest))
  | trans {t t' t'' : Tree α} (hfirst : Reorders t t') (hthen : Reorders t' t'') : Reorders t t''

/-- The files of a tree are the same in any order of its entries. -/
lemma Reorders.files_perm {t t' : Tree α} (h : Reorders t t') : t.files.Perm t'.files := by
  induction h with
  | refl t => exact .refl _
  | permuted hperm =>
    rw [files, files, filesOf_eq_flatMap, filesOf_eq_flatMap]
    exact hperm.flatMap_right _
  | inside hinside ih =>
    rw [files, files, filesOf_eq_flatMap, filesOf_eq_flatMap, List.flatMap_append,
      List.flatMap_append, List.flatMap_cons, List.flatMap_cons]
    exact ((ih.map _).append_right _).append_left _
  | trans hfirst hthen ih ih' => exact ih.trans ih'

/-- The directories below entries, entry by entry. -/
lemma directoriesOf_eq_flatMap (entries : Entries α) :
    directoriesOf entries = entries.flatMap fun entry =>
      entry.2.directories.map (entry.1 :: ·) := by
  induction entries with
  | nil => rfl
  | cons entry rest ih => rw [directoriesOf, ih, List.flatMap_cons]

/-- The directories of a tree are the same in any order of its entries. -/
lemma Reorders.directories_perm {t t' : Tree α} (h : Reorders t t') :
    t.directories.Perm t'.directories := by
  induction h with
  | refl t => exact .refl _
  | permuted hperm =>
    rw [directories, directories, directoriesOf_eq_flatMap, directoriesOf_eq_flatMap]
    exact (hperm.flatMap_right _).cons _
  | inside hinside ih =>
    rw [directories, directories, directoriesOf_eq_flatMap, directoriesOf_eq_flatMap,
      List.flatMap_append, List.flatMap_append, List.flatMap_cons, List.flatMap_cons]
    exact (((ih.map _).append_right _).append_left _).cons _
  | trans hfirst hthen ih ih' => exact ih.trans ih'

/-- Names are distinct in any order of the entries. -/
lemma Reorders.distinct {t t' : Tree α} (h : Reorders t t') (hdistinct : t.Distinct) :
    t'.Distinct := by
  induction h with
  | refl t => exact hdistinct
  | permuted hperm =>
    obtain ⟨hnames, hentries⟩ := distinct_directory_iff.mp hdistinct
    exact distinct_directory_iff.mpr ⟨(hperm.map _).nodup_iff.mp hnames, fun entry hentry =>
      hentries entry (hperm.mem_iff.mpr hentry)⟩
  | inside hinside ih =>
    rw [distinct_directory_iff, List.forall_mem_append, List.forall_mem_cons,
      List.map_append, List.map_cons] at hdistinct ⊢
    obtain ⟨hnames, hfront, ht, hrest⟩ := hdistinct
    exact ⟨hnames, hfront, ih ht, hrest⟩
  | trans hfirst hthen ih ih' => exact ih' (ih hdistinct)

/-- A tree is listed alike in whatever order the entries of its directories are read. -/
lemma Reorders.blobNames_eq {t t' : Tree α} (h : Reorders t t') : t'.blobNames = t.blobNames :=
  mergeSort_eq_of_perm (h.files_perm.map _).symm

end Tree

end ClaimCheck.Disk
