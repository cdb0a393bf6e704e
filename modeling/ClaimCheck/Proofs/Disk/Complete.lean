import Mathlib
import ClaimCheck.Proofs.Disk.Asked
import ClaimCheck.Proofs.Disk.Outcomes
import ClaimCheck.Proofs.Disk.Refinement
import ClaimCheck.Proofs.Text.Order

/-!
# Complete listings

Below a container that is there, files may stand at any depth and beside directories that hold none.
A listing reads each directory by its path, once, and where no such path is too long it gives the name
of each file, the names of the entries that lead to it joined by slashes, once and in the order of their
bytes.  Where the path of a directory is too long the listing fails.  Either way the order does not
matter in which the entries of each directory are read (`list_complete`).  Each name that is given leads
back to the file (`blobPath_of_file`), so no two files have the same one.
-/

namespace ClaimCheck.Disk

open Text

variable {α : Type}

/-! ## Regular trees -/

/-- A name as a file system holds it that is a text: one that names an entry, is not too long and has no
zero byte. -/
structure Name.IsRegular (name : Name) : Prop where
  component : name.IsComponent
  size_le : name.size ≤ longestName
  noNul : 0 ∉ name.toList

/-- Texts that name entries are stored. -/
lemma Name.IsRegular.isStored {name : Name} (h : name.IsRegular) : name.IsStored :=
  ⟨h.component.isPlain, h.size_le, h.noNul⟩

/-- A tree as a file system holds it: no two entries of a directory share a name, and each name is a
text that names an entry. -/
structure Tree.IsRegular (t : Tree α) : Prop where
  distinct : t.Distinct
  regular : ∀ location, t.peek location ≠ none → ∀ name ∈ location, name.IsRegular

/-- A file has no entries. -/
lemma Tree.isRegular_file (content : α) : (file content).IsRegular := by
  refine ⟨distinct_file content, fun location hpeek => ?_⟩
  cases location with
  | nil => simp
  | cons name rest => exact absurd rfl hpeek

/-- A directory is regular when its entries have regular names and are regular trees. -/
lemma Tree.isRegular_directory {entries : Entries α} (hnames : (entries.map Prod.fst).Nodup)
    (hentries : ∀ entry ∈ entries, entry.1.IsRegular ∧ entry.2.IsRegular) :
    (directory entries).IsRegular := by
  constructor
  · exact distinct_directory_iff.mpr ⟨hnames, fun entry hentry => (hentries entry hentry).2.distinct⟩
  · intro location hpeek
    cases location with
    | nil => simp
    | cons name rest =>
      unfold peek at hpeek
      rw [get?_directory_cons] at hpeek
      cases hchild : child? entries name with
      | none =>
        rw [hchild] at hpeek
        exact absurd rfl hpeek
      | some child =>
        rw [hchild, Option.bind_some] at hpeek
        obtain ⟨hname, hregular⟩ := hentries _ (mem_of_child? hchild)
        exact List.forall_mem_cons.mpr ⟨hname, hregular.regular rest hpeek⟩

/-- A directory is regular when its only entry is. -/
lemma Tree.isRegular_singleton {name : Name} {t : Tree α} (hname : name.IsRegular)
    (ht : t.IsRegular) : (directory [(name, t)]).IsRegular :=
  isRegular_directory (List.nodup_singleton _) (List.forall_mem_singleton.mpr ⟨hname, ht⟩)

/-- Components are spelled by pieces that are not special and have no slash. -/
lemma exists_pieces {names : List Name} (h : ∀ name ∈ names, name.IsComponent) :
    ∃ pieces : List (List Char), names = pieces.map Name.ofChars ∧
      (∀ piece ∈ pieces, isSpecial piece = false) ∧ ∀ piece ∈ pieces, '/' ∉ piece := by
  induction names with
  | nil => exact ⟨[], rfl, by simp, by simp⟩
  | cons name names ih =>
    rw [List.forall_mem_cons] at h
    obtain ⟨⟨piece, hname, hpiece⟩, hnames⟩ := h
    obtain ⟨pieces, rfl, hspecial, hslash⟩ := ih hnames
    obtain ⟨hplain, hnone⟩ := Name.isComponent_ofChars_iff.mp ⟨piece, rfl, hpiece⟩
    exact ⟨piece :: pieces, by rw [hname, List.map_cons], List.forall_mem_cons.mpr ⟨hplain, hspecial⟩,
      List.forall_mem_cons.mpr ⟨hnone, hslash⟩⟩

/-- Components lead to a blob, whose name is the one that they are listed under. -/
lemma segments_listedName {names : Location} (hne : names ≠ [])
    (h : ∀ name ∈ names, name.IsComponent) : Account.segments (listedName names) = .ok names := by
  obtain ⟨pieces, rfl, hspecial, hslash⟩ := exists_pieces h
  have hpieces : ∀ piece ∈ pieces, piece ≠ [] := by
    rintro piece hpiece rfl
    exact absurd (hspecial [] hpiece) (by decide)
  have hparts : parts (listedName (pieces.map Name.ofChars)) = pieces := by
    rw [listedName_map_ofChars hpieces, parts, String.toList_ofList]
    exact pieces_join (fun hnil => hne (by rw [hnil, List.map_nil])) hslash
  rw [segments_eq_ok_iff, hparts]
  exact ⟨hspecial, rfl⟩

/-! ## The way back -/

section Listed

variable {a : Account} {m : Machine} {container : String} {path : Path} {location names : Location}
  {entries : Tree.Entries ByteArray} {data : ByteArray}

/-- A file is not at the place of the directory that it is below. -/
lemma ne_nil_of_file (hfile : (Tree.directory entries).get? names = some (.file data)) :
    names ≠ [] := by
  rintro rfl
  cases hfile

/-- The names that lead to a file are components. -/
lemma Tree.IsRegular.components (h : (Tree.directory entries).IsRegular)
    (hfile : (Tree.directory entries).get? names = some (.file data)) :
    ∀ name ∈ names, name.IsComponent := by
  intro name hname
  refine (h.regular names ?_ name hname).component
  rw [Tree.peek_eq_file_iff.mpr hfile]
  exact Option.some_ne_none _

/-- The names that lead to a directory are stored. -/
lemma Tree.IsRegular.stored (h : (Tree.directory entries).IsRegular) :
    ∀ dir ∈ (Tree.directory entries).directories, ∀ name ∈ dir, name.IsStored := by
  intro dir hdir name hname
  obtain ⟨inner, hget⟩ := (Tree.mem_directories_iff h.distinct).mp hdir
  refine (h.regular dir ?_ name hname).isStored
  rw [Tree.peek_eq_directory_iff.mpr ⟨inner, hget⟩]
  exact Option.some_ne_none _

/-- A file is listed under the name that is joined from the names that lead to it. -/
lemma Tree.IsRegular.segments (h : (Tree.directory entries).IsRegular)
    (hfile : (Tree.directory entries).get? names = some (.file data)) :
    Account.segments (blobName names) = .ok names ∧ listedName names = blobName names := by
  have hsegments := segments_listedName (ne_nil_of_file hfile) (h.components hfile)
  have hname := blobName_of_segments hsegments
  rw [hname]
  exact ⟨hsegments, rfl⟩

/-- A path that goes on from a directory to a file leads to it, if the file system takes it. -/
lemma look_append_of_file (hlook : m.look path = .ok (location, .directory entries))
    (hregular : (Tree.directory entries).IsRegular)
    (hfile : (Tree.directory entries).get? names = some (.file data))
    (htaken : IsTaken (.ok (path.append names))) :
    m.look (path.append names) = .ok (location ++ names, .file data) := by
  obtain ⟨hnul, hshort, hsizes⟩ := htaken
  refine Machine.look_append hlook ⟨fun name hname => ⟨?_, ?_⟩, hnul, hshort⟩ hfile
  · exact (hregular.components hfile name hname).isPlain
  · exact hsizes name (List.mem_append_right _ hname)

/-- A file is the blob of the name that is joined from the names that lead to it: the path of this
blob goes on to the file from its container. -/
lemma blobPath_of_file (hpath : a.containerPath container = .ok path)
    (hregular : (Tree.directory entries).IsRegular)
    (hfile : (Tree.directory entries).get? names = some (.file data)) :
    a.blobPath ⟨container, blobName names⟩ = .ok (path.append names) := by
  unfold Account.blobPath
  rw [hpath, (hregular.segments hfile).1]
  rfl

/-! ## Listing -/

/-- A name is listed if it is that of a file. -/
lemma mem_blobNames_iff (hregular : (Tree.directory entries).IsRegular) {name : String} :
    name ∈ (Tree.directory entries).blobNames ↔
      ∃ names data, (Tree.directory entries).get? names = some (.file data) ∧
        name = blobName names := by
  rw [Tree.blobNames, (List.mergeSort_perm _ _).mem_iff, List.mem_map]
  constructor
  · rintro ⟨⟨names, data⟩, hmem, rfl⟩
    have hfile := (Tree.mem_files_iff hregular.distinct).mp hmem
    exact ⟨names, data, hfile, (hregular.segments hfile).2⟩
  · rintro ⟨names, data, hfile, rfl⟩
    exact ⟨(names, data), (Tree.mem_files_iff hregular.distinct).mpr hfile,
      (hregular.segments hfile).2⟩

/-- The names increase by their bytes, so each comes once. -/
lemma pairwise_blobNames (hregular : (Tree.directory entries).IsRegular) :
    (Tree.directory entries).blobNames.Pairwise Precedes := by
  unfold Tree.blobNames
  set listed := (Tree.directory entries).files.map fun file => listedName file.1 with hlisted
  have hnodup : listed.Nodup := by
    -- each file is listed once, and its location is read back from its name
    have hfst : listed = ((Tree.directory entries).files.map Prod.fst).map listedName := by
      rw [hlisted, List.map_map]
      rfl
    rw [hfst]
    refine (Tree.Distinct.nodup_files _ hregular.distinct).map_on ?_
    rintro names hnames others hothers heq
    obtain ⟨⟨_, data⟩, hmem, rfl⟩ := List.mem_map.mp hnames
    obtain ⟨⟨_, data'⟩, hmem', rfl⟩ := List.mem_map.mp hothers
    obtain ⟨hsegments, hname⟩ := hregular.segments ((Tree.mem_files_iff hregular.distinct).mp hmem)
    obtain ⟨hsegments', hname'⟩ :=
      hregular.segments ((Tree.mem_files_iff hregular.distinct).mp hmem')
    rw [← hname, heq, hname', hsegments'] at hsegments
    exact (Except.ok.inj hsegments).symm
  have hsorted : listed.mergeSort.Pairwise fun s t => s ≤ t ∧ s ≠ t :=
    (pairwise_mergeSort_le listed).and ((List.mergeSort_perm listed _).nodup_iff.mpr hnodup)
  exact hsorted.imp fun h => precedes_iff_lt.mpr (lt_of_le_of_ne h.1 h.2)

/-- Whether a listing succeeds does not depend on the order of the entries, nor does what it gives. -/
lemma run_list_of_reorders (hpath : a.containerPath container = .ok path)
    (hlook : m.look path = .ok (location, .directory entries))
    (hregular : (Tree.directory entries).IsRegular) {m' : Machine} {location' : Location}
    {entries' : Tree.Entries ByteArray} (hlook' : m'.look path = .ok (location', .directory entries'))
    (hreorders : Tree.Reorders (.directory entries) (.directory entries')) :
    m'.run (a.list container).run = ((m.run (a.list container).run).1, m') := by
  have hdistinct' := hreorders.distinct hregular.distinct
  have hmem : ∀ dir, dir ∈ (Tree.directory entries').directories ↔
      dir ∈ (Tree.directory entries).directories := fun dir => hreorders.directories_perm.mem_iff.symm
  have hstored' : ∀ dir ∈ (Tree.directory entries').directories, ∀ name ∈ dir, name.IsStored :=
    fun dir hdir => hregular.stored dir ((hmem dir).mp hdir)
  obtain ⟨-, hnul, -⟩ := walk_of_look hlook
  by_cases hshort : ∀ dir ∈ (Tree.directory entries).directories,
      (path.append dir).size ≤ longestPath
  · have hfits : ∀ dir ∈ (Tree.directory entries).directories, Fits path dir := fun dir hdir =>
      fits_of_isStored hnul (hregular.stored dir hdir) (hshort dir hdir)
    rw [run_list_of_fits hpath hlook' hdistinct' fun dir hdir => hfits dir ((hmem dir).mp hdir),
      run_list_of_fits hpath hlook hregular.distinct hfits, hreorders.blobNames_eq]
  · rw [run_list_of_long hlook' hdistinct' hstored' hpath (by simpa only [hmem] using hshort),
      run_list_of_long hlook hregular.distinct hregular.stored hpath hshort]

end Listed

/-- **Complete listings.**  A container whose directory is there is listed by the names of all files
below it, in the order of their bytes and each once, provided that no path of a directory below it is
too long; the path of the blob of each name leads to its file, and each directory is read once.  Where
such a path is too long the listing fails.  Any machine on which the entries are read in another order
answers the same. -/
theorem list_complete (a : Account) {m : Machine} {container : String} {path : Path}
    {location : Location} {entries : Tree.Entries ByteArray}
    (hpath : a.containerPath container = .ok path)
    (hlook : m.look path = .ok (location, .directory entries))
    (hregular : (Tree.directory entries).IsRegular) :
    ((∀ dir ∈ (Tree.directory entries).directories, (path.append dir).size ≤ longestPath) →
      ∃ listed, m.run (a.list container).run = (.ok listed, m) ∧
        listed.Pairwise Precedes ∧
        (∀ name, name ∈ listed ↔ ∃ names data,
          (Tree.directory entries).get? names = some (.file data) ∧ name = blobName names) ∧
        (∀ names data, (Tree.directory entries).get? names = some (.file data) →
          a.blobPath ⟨container, blobName names⟩ = .ok (path.append names) ∧
            (IsTaken (.ok (path.append names)) →
              m.look (path.append names) = .ok (location ++ names, .file data))) ∧
        ∃ paths : List Path,
          paths.Perm ((Tree.directory entries).directories.map path.append) ∧
            (a.list container).run.asked Machine.answer m =
              .isThere path :: paths.map Request.readDirectory) ∧
    ((¬∀ dir ∈ (Tree.directory entries).directories, (path.append dir).size ≤ longestPath) →
      m.run (a.list container).run = (.error (.disk .nameTooLong), m)) ∧
    ∀ (m' : Machine) location' entries', m'.look path = .ok (location', .directory entries') →
      Tree.Reorders (.directory entries) (.directory entries') →
        m'.run (a.list container).run = ((m.run (a.list container).run).1, m') := by
  refine ⟨fun hshort => ?_, run_list_of_long hlook hregular.distinct hregular.stored hpath,
    fun m' location' entries' => run_list_of_reorders hpath hlook hregular⟩
  obtain ⟨-, hnul, -⟩ := walk_of_look hlook
  have hfits : ∀ dir ∈ (Tree.directory entries).directories, Fits path dir := fun dir hdir =>
    fits_of_isStored hnul (hregular.stored dir hdir) (hshort dir hdir)
  exact ⟨_, run_list_of_fits hpath hlook hregular.distinct hfits, pairwise_blobNames hregular,
    fun name => mem_blobNames_iff hregular, fun names data hfile =>
      ⟨blobPath_of_file hpath hregular hfile, look_append_of_file hlook hregular hfile⟩,
    exists_asked_list hpath hlook hregular.distinct hfits⟩

/-- A server whose container `c` has some entries. -/
def serverHolding (entries : Tree.Entries ByteArray) : Machine :=
  { tree := .directory [(serverName, .directory [(Name.ofChars ['c'], .directory entries)])] }

/-- Files at two depths beside a directory that holds none. -/
def spreadEntries : Tree.Entries ByteArray :=
  [(Name.ofChars ['b'],
      .directory [(Name.ofChars ['e'], .empty), (Name.ofChars ['x'], .file ⟨#[1]⟩)]),
    (Name.ofChars ['a'], .file ⟨#[2]⟩)]

/-- The same entries, read the other way round. -/
def turnedEntries : Tree.Entries ByteArray :=
  [(Name.ofChars ['a'], .file ⟨#[2]⟩),
    (Name.ofChars ['b'],
      .directory [(Name.ofChars ['x'], .file ⟨#[1]⟩), (Name.ofChars ['e'], .empty)])]

/-- A text that names an entry, is not too long and has no zero byte. -/
lemma isRegular_ofChars {cs : List Char} (h : (isSpecial cs = false ∧ '/' ∉ cs) ∧
    (Name.ofChars cs).size ≤ longestName ∧ 0 ∉ (Name.ofChars cs).toList) :
    (Name.ofChars cs).IsRegular :=
  ⟨Name.isComponent_ofChars_iff.mpr h.1, h.2.1, h.2.2⟩

/-- No two of these entries share a name, and each name is a text. -/
lemma isRegular_spread : (Tree.directory spreadEntries).IsRegular := by
  have hinner : (Tree.directory [(Name.ofChars ['e'], Tree.empty),
      (Name.ofChars ['x'], .file (⟨#[1]⟩ : ByteArray))]).IsRegular := by
    refine Tree.isRegular_directory (by decide) ?_
    simp only [List.forall_mem_cons, List.not_mem_nil, false_imp_iff, implies_true, and_true]
    exact ⟨⟨isRegular_ofChars (by decide +kernel),
      Tree.isRegular_directory List.nodup_nil (by simp)⟩,
        isRegular_ofChars (by decide +kernel), Tree.isRegular_file _⟩
  refine Tree.isRegular_directory (by decide) ?_
  simp only [spreadEntries, List.forall_mem_cons, List.not_mem_nil, false_imp_iff, implies_true,
    and_true]
  exact ⟨⟨isRegular_ofChars (by decide +kernel), hinner⟩, isRegular_ofChars (by decide +kernel),
    Tree.isRegular_file _⟩

/-- Only the order of the entries is another one. -/
lemma reorders_spread_turned :
    Tree.Reorders (.directory spreadEntries) (.directory turnedEntries) := by
  have hinner : Tree.Reorders
      (.directory [(Name.ofChars ['e'], .empty), (Name.ofChars ['x'], .file (⟨#[1]⟩ : ByteArray))])
      (.directory [(Name.ofChars ['x'], .file ⟨#[1]⟩), (Name.ofChars ['e'], .empty)]) :=
    .permuted (List.Perm.swap ..)
  exact .trans (@Tree.Reorders.inside _ [] _ _ _ _ hinner) (.permuted (List.Perm.swap ..))

/-- Files at two depths are listed alike in both orders, and the name of the deeper one leads to
it. -/
theorem spread_files_listed :
    ((serverHolding spreadEntries).run (serverAccount.list "c").run).1 = .ok ["a", "b/x"] ∧
      ((serverHolding turnedEntries).run (serverAccount.list "c").run).1 = .ok ["a", "b/x"] ∧
      ∃ path, serverAccount.blobPath ⟨"c", "b/x"⟩ = .ok path ∧
        ∃ location, (serverHolding spreadEntries).look path = .ok (location, .file ⟨#[1]⟩) := by
  have hpath : serverAccount.containerPath "c" =
      .ok (serverAccount.root.append [Name.ofChars ['c']]) := by decide +kernel
  have hlook : ∀ entries, (serverHolding entries).look
      (serverAccount.root.append [Name.ofChars ['c']]) =
        .ok ([serverName, Name.ofChars ['c']], .directory entries) := by
    intro entries
    cbv
  obtain ⟨hcomplete, -, horder⟩ :=
    list_complete serverAccount hpath (hlook spreadEntries) isRegular_spread
  obtain ⟨listed, hrun, -, -, hback, -⟩ := hcomplete (by decide +kernel)
  have hlisted : listed = ["a", "b/x"] := by
    rw [((list_eq_ok_iff_of_look hpath (hlook spreadEntries) isRegular_spread.distinct).mp
      (congrArg Prod.fst hrun)).2]
    have hnames : (Tree.directory spreadEntries).files.map (fun file => listedName file.1) =
        ["b/x", "a"] := by decide +kernel
    unfold Tree.blobNames
    rw [hnames]
    cbv
  have hturned := horder _ _ _ (hlook turnedEntries) reorders_spread_turned
  rw [hrun, hlisted] at hturned
  refine ⟨by rw [hrun, hlisted], by rw [hturned], ?_⟩
  obtain ⟨hblob, hleads⟩ := hback [Name.ofChars ['b'], Name.ofChars ['x']] ⟨#[1]⟩ (by cbv)
  exact ⟨_, hblob, _, hleads (by decide +kernel)⟩

/-- Going down into a directory and back up any number of times leads nowhere new. -/
lemma Machine.walk_detours {m : Machine} {dir : Location} {name : Name} {rest : List Name}
    (hname : name.IsPlain) (hsize : name.size ≤ longestName)
    (hdir : m.tree.peek dir = some .directory)
    (hchild : m.tree.peek (dir ++ [name]) = some .directory) (hrest : rest ≠ []) (n : ℕ) :
    m.walk dir ((List.replicate n [name, Name.parent]).flatten ++ rest) = m.walk dir rest := by
  have hdown : m.enter dir name = .ok (dir ++ [name]) :=
    enter_eq_ok_iff.mpr ⟨toward_of_plain dir hname hsize, hchild⟩
  have hup : m.enter (dir ++ [name]) Name.parent = .ok dir := by
    refine enter_eq_ok_iff.mpr ⟨?_, hdir⟩
    unfold toward
    rw [if_neg (by decide), if_pos rfl, List.dropLast_concat]
  induction n with
  | zero => rfl
  | succ n ih =>
    have hne : (List.replicate n [name, Name.parent]).flatten ++ rest ≠ [] := by simp [hrest]
    rw [List.replicate_succ, List.flatten_cons, List.append_assoc, List.cons_append,
      List.cons_append, List.nil_append, walk_cons _ _ _ (List.cons_ne_nil _ _), hdown]
    change m.walk (dir ++ [name]) (Name.parent :: _) = _
    rw [walk_cons _ _ _ hne, hup]
    exact ih

/-- A path that goes down into `s` and back up again and again, and at last into `s`. -/
def detourRoot : Path :=
  ⟨false, (List.replicate 815 [Name.ofChars ['s'], Name.parent]).flatten ++ [Name.ofChars ['s']]⟩

/-- A file beside a directory whose path is too long where it goes on from such a detour. -/
def detourEntries : Tree.Entries ByteArray :=
  [(Name.ofChars (List.replicate 20 'd'), .directory [(Name.ofChars ['f'], .file ⟨#[1]⟩)]),
    (Name.ofChars ['b'], .file ⟨#[2]⟩)]

/-- A machine with a store in `s`. -/
def detourMachine : Machine :=
  { tree := .directory [(Name.ofChars ['s'], .directory [("acct".toUTF8,
      .directory [("c".toUTF8, .directory detourEntries)])])] }

/-- The path of the container in the store is not too long. -/
lemma look_detour : detourMachine.look (Path.ofContainer detourRoot "acct" "c") =
    .ok ([Name.ofChars ['s'], "acct".toUTF8, "c".toUTF8], .directory detourEntries) := by
  have hwalk : detourMachine.walk []
      ((List.replicate 815 [Name.ofChars ['s'], Name.parent]).flatten ++
        [Name.ofChars ['s'], "acct".toUTF8, "c".toUTF8]) =
      detourMachine.walk [] [Name.ofChars ['s'], "acct".toUTF8, "c".toUTF8] :=
    Machine.walk_detours ⟨by decide, by decide⟩ (by decide) (by cbv) (by cbv)
      (List.cons_ne_nil _ _) 815
  refine Machine.look_eq_ok_iff.mpr ⟨?_, by cbv⟩
  unfold Machine.locate
  rw [if_neg (by decide +kernel), if_neg (by decide +kernel)]
  refine Eq.trans ?_ (hwalk.trans (by cbv))
  unfold Path.ofContainer detourRoot Path.append
  rw [List.append_assoc]
  rfl

/-- No two of these entries share a name, and each name is a text. -/
lemma isRegular_detour : (Tree.directory detourEntries).IsRegular := by
  have hinner : (Tree.directory [(Name.ofChars ['f'],
      Tree.file (⟨#[1]⟩ : ByteArray))]).IsRegular :=
    Tree.isRegular_singleton (isRegular_ofChars (by decide +kernel)) (Tree.isRegular_file _)
  refine Tree.isRegular_directory (by decide +kernel) ?_
  simp only [detourEntries, List.forall_mem_cons, List.not_mem_nil, false_imp_iff, implies_true,
    and_true]
  exact ⟨⟨isRegular_ofChars (by decide +kernel), hinner⟩, isRegular_ofChars (by decide +kernel),
    Tree.isRegular_file _⟩

/-- A container with two files is not listed where the path of the directory of one of them is too
long. -/
theorem detour_not_listed :
    (accountBelow detourRoot "acct").containerPath "c" =
        .ok (Path.ofContainer detourRoot "acct" "c") ∧
      detourMachine.look (Path.ofContainer detourRoot "acct" "c") =
        .ok ([Name.ofChars ['s'], "acct".toUTF8, "c".toUTF8], .directory detourEntries) ∧
      (Tree.directory detourEntries).IsRegular ∧
      detourMachine.run ((accountBelow detourRoot "acct").list "c").run =
        (.error (.disk .nameTooLong), detourMachine) := by
  have hpath : (accountBelow detourRoot "acct").containerPath "c" =
      .ok (Path.ofContainer detourRoot "acct" "c") := by
    rw [containerPath_below, if_pos (by decide)]
  exact ⟨hpath, look_detour, isRegular_detour, run_list_of_long look_detour isRegular_detour.distinct
    isRegular_detour.stored hpath (by decide +kernel)⟩

end ClaimCheck.Disk
