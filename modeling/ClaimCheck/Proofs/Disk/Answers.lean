import Mathlib
import ClaimCheck.Proofs.Disk.Refinement

/-!
# What a store on disk answers about a name

A store keeps blobs under names, and what it answers about a name should depend on whether a blob has
it.  On disk a name leads to a place in a tree, where more can be met than a file or nothing: the name
may be that of a directory, on the way to other blobs or left behind by a put that failed, and the way
to it may lead through a file.  `AnswersByPlace` says what is answered in each of the four cases, and
`answers_by_place` that this holds after any calls.

So the answers are those about a flat set of names for every name that is listed, and for a name that
is not listed exactly if no directory stands where it leads and no listed name leads above it.
-/

namespace ClaimCheck.Disk

open Store

/-! ## Ways through files -/

namespace Machine

variable {m : Machine} {dir : Location} {name : Name} {front rest : List Name} {content : ByteArray}

/-- A file is not entered. -/
lemma enter_of_file (hplain : name.IsPlain) (hsize : name.size ≤ longestName)
    (hfile : m.tree.peek (dir ++ [name]) = some (.file content)) :
    m.enter dir name = .error .notDirectory := by
  have hget : m.tree.get? (dir ++ [name]) = some (.file content) := Tree.peek_eq_file_iff.mp hfile
  unfold enter
  rw [toward_of_plain dir hplain hsize]
  simp only [bind, Except.bind, hget]
  rfl

/-- A walk through a file stops there. -/
lemma walk_of_file (hfront : front ≠ []) (hrest : rest ≠ [])
    (hplain : ∀ name ∈ front, name.IsPlain ∧ name.size ≤ longestName)
    (hfile : m.tree.peek (dir ++ front) = some (.file content)) :
    m.walk dir (front ++ rest) = .error .notDirectory := by
  induction front generalizing dir with
  | nil => exact absurd rfl hfront
  | cons name front ih =>
    obtain ⟨hname, hsize⟩ := hplain name List.mem_cons_self
    rw [List.cons_append, walk_cons m dir name (by simp [hrest])]
    rcases eq_or_ne front [] with rfl | hne
    · rw [enter_of_file hname hsize hfile]
      rfl
    · have hwhole : dir ++ name :: front = dir ++ [name] ++ front := by simp
      rw [hwhole] at hfile
      have hdir : m.tree.peek (dir ++ [name]) = some .directory :=
        Tree.peek_of_append hne (by rw [hfile]; exact Option.some_ne_none _)
      have henter : m.enter dir name = .ok (dir ++ [name]) :=
        enter_eq_ok_iff.mpr ⟨toward_of_plain dir hname hsize, hdir⟩
      rw [henter]
      exact ih hne (fun other hother => hplain other (List.mem_cons_of_mem _ hother)) hfile

end Machine

namespace Anchored

variable {m : Machine} {root : Path} {base : Location} {t : Tree ByteArray}
  {front rest names : List Name} {content : ByteArray}

/-- A path through a file leads nowhere. -/
lemma locate_of_file (h : Anchored m root base t) (hfits : Fits root (front ++ rest))
    (hfront : front ≠ []) (hrest : rest ≠ []) (hfile : t.peek front = some (.file content)) :
    m.locate (root.append (front ++ rest)) = .error .notDirectory := by
  have hwalk : m.walk (m.origin root) root.names = .ok base := h.leads m.tree fun _ _ => rfl
  unfold Machine.locate
  rw [if_neg (by simp [hfits.noNul]), if_neg (Nat.not_lt.mpr hfits.short)]
  change m.walk (m.origin root) (root.names ++ (front ++ rest)) = _
  have hbelow : m.tree.peek (base ++ front) = some (.file content) := by
    rw [h.peek_append, hfile]
  rw [Machine.walk_append hwalk h.peek_base (by simp [hfront])]
  exact Machine.walk_of_file hfront hrest
    (fun name hname => hfits.plain name (List.mem_append_left _ hname)) hbelow

/-- Nothing is looked at behind a file. -/
lemma look_of_file (h : Anchored m root base t) (hfits : Fits root (front ++ rest))
    (hfront : front ≠ []) (hrest : rest ≠ []) (hfile : t.peek front = some (.file content)) :
    m.look (root.append (front ++ rest)) = .error .notDirectory := by
  unfold Machine.look
  rw [h.locate_of_file hfits hfront hrest hfile]
  rfl

/-- No directory is made at a file or behind it. -/
lemma run_makeDirectories_of_file (h : Anchored m root base t) (hfits : Fits root (front ++ rest))
    (hfront : front ≠ []) (hfile : t.peek front = some (.file content)) :
    ∃ fault, m.run (makeDirectories (root.append (front ++ rest))) = (.error fault, m) := by
  obtain ⟨dir, name, hnames⟩ :=
    (List.eq_nil_or_concat (front ++ rest)).resolve_left (by simp [hfront])
  rw [List.concat_eq_append] at hnames
  -- the first request is refused, and what is there is no directory
  have hrefused : ∃ fault, fault ≠ .notFound ∧
      m.create (root.append (front ++ rest)) .empty = (.error fault, m) ∧
        m.isDirectory (root.append (front ++ rest)) = false := by
    rcases eq_or_ne rest [] with rfl | hrest
    · rw [List.append_nil] at hfits ⊢
      have hclear : t.Clear front := Tree.clear_of_peek (by rw [hfile]; exact Option.some_ne_none _)
      have hget := Tree.peek_eq_file_iff.mp hfile
      refine ⟨.alreadyExists, by simp, ?_, ?_⟩
      · have hparent : t.peek front.dropLast = some .directory := by
          refine Tree.peek_of_append (List.cons_ne_nil (front.getLast hfront) []) ?_
          rw [List.dropLast_append_getLast, hfile]
          exact Option.some_ne_none _
        rw [h.create hfits hfront hclear, if_pos hparent, hget]
      · unfold Machine.isDirectory
        rw [h.look hfits hfront hclear, hget]
        rfl
    · refine ⟨.notDirectory, by simp, ?_, ?_⟩
      · unfold Machine.create
        rw [h.locate_of_file hfits hfront hrest hfile]
      · unfold Machine.isDirectory
        rw [h.look_of_file hfits hfront hrest hfile]
  obtain ⟨fault, hfault, hcreate, hlook⟩ := hrefused
  rw [hnames] at hcreate hlook ⊢
  refine ⟨fault, ?_⟩
  rw [Machine.run_makeDirectories_concat, hcreate]
  cases fault with
  | notFound => exact absurd rfl hfault
  | _ =>
    dsimp only
    rw [hlook]
    rfl

end Anchored

/-! ## Calls for one place -/

/-- A place in a container that is there, under a name that the store accepts and whose path the file
system takes. -/
structure Located (a : Account) (m : Machine) (base : Location) (t : Tree ByteArray)
    (place : Locator) (names : Location) : Prop where
  anchored : Anchored m a.root base t
  spelled : Spelled a.root t
  container : isEntryName place.container = true
  segments : Account.segments place.name = .ok names
  fits : Fits a.root (place.container.toUTF8 :: names)
  there : t.peek [place.container.toUTF8] = some .directory

namespace Located

variable {a : Account} {m : Machine} {base : Location} {t : Tree ByteArray} {place : Locator}
  {names : Location}

/-- The container is found. -/
lemma run_presentContainer (h : Located a m base t place names) :
    m.run (a.presentContainer place.container).run =
      (.ok (a.root.append [place.container.toUTF8]), m) := by
  have hsome : t.peek [place.container.toUTF8] ≠ none := by
    rw [h.there]
    exact Option.some_ne_none _
  obtain ⟨entries, hentries⟩ := Tree.peek_eq_directory_iff.mp h.there
  have hthere : m.isThere (a.root.append [place.container.toUTF8]) = .ok true := by
    rw [h.anchored.isThere h.fits.container (List.cons_ne_nil _ _) (Tree.clear_of_peek hsome),
      hentries]
    rfl
  rw [run_presentContainer_of_isThere h.container hthere, if_pos rfl]

/-- What is read at a place. -/
lemma run_get (h : Located a m base t place names) :
    (m.run (a.get place).run).1 =
      (m.read (a.root.append (place.container.toUTF8 :: names))).mapError
        (Account.missingAs (.blobNotFound place)) := by
  unfold Account.get
  rw [Machine.run_attempt_bind, h.run_presentContainer]
  dsimp only
  rw [Machine.run_attempt_bind, Machine.run_liftM, h.segments]
  dsimp only
  rw [Machine.run_wrapping, Machine.run_perform, append_container]
  rfl

/-- What is removed at a place. -/
lemma run_deleteBlob (h : Located a m base t place names) :
    (m.run (a.deleteBlob place).run).1 =
      (m.takeAway (a.root.append (place.container.toUTF8 :: names))
        Machine.againstRemove).1.mapError (Account.missingAs (.blobNotFound place)) := by
  have hanswer : Machine.answer (.remove (a.root.append (place.container.toUTF8 :: names))) m =
      m.takeAway (a.root.append (place.container.toUTF8 :: names)) Machine.againstRemove := rfl
  unfold Account.deleteBlob
  rw [Machine.run_attempt_bind, h.run_presentContainer]
  dsimp only
  rw [Machine.run_attempt_bind, Machine.run_liftM, h.segments]
  dsimp only
  rw [Machine.run_attempt_bind, Machine.run_wrapping, Machine.run_perform, append_container, hanswer]
  rcases m.takeAway _ _ with ⟨fault | _, m'⟩
  · rfl
  · dsimp only [Except.mapError]
    rw [Machine.run_lift]

/-- Where no file is on the way, a put succeeds exactly if nothing stands at the place. -/
lemma run_put_of_clear (h : Located a m base t place names)
    (hclear : t.Clear (place.container.toUTF8 :: names)) (data : ByteArray) :
    (m.run (a.put place data).run).1 =
      if t.peek (place.container.toUTF8 :: names) = none then .ok ()
      else .error (.blobExists place) := by
  obtain ⟨way, last, hnames⟩ :=
    (List.eq_nil_or_concat names).resolve_left (segments_ne_nil h.segments)
  rw [List.concat_eq_append] at hnames
  subst hnames
  set c := place.container.toUTF8 with hc
  have hfits : Fits a.root (c :: way ++ [last]) := h.fits
  have hlong : ¬ c :: way ++ [last] <+: c :: way := fun hstart => by
    simpa using hstart.length_le
  have hway : ∀ front content, front <+: c :: way → t.peek front ≠ some (.file content) := by
    intro front content hfront
    refine hclear front content (hfront.trans (List.prefix_append (c :: way) [last])) ?_
    rintro rfl
    exact hlong hfront
  obtain ⟨m₁, t₁, hmake, h₁, hdistinct₁, hmade⟩ := h.anchored.run_makeDirectories
    h.spelled.distinct hfits.left (List.cons_ne_nil c way) hway
  have hparent₁ : t₁.peek (c :: way) = some .directory := by rw [hmade, if_pos List.prefix_rfl]
  have hplace₁ : t₁.peek (c :: way ++ [last]) = t.peek (c :: way ++ [last]) := by
    rw [hmade, if_neg hlong]
  have hrun := run_put_of_made h.container h.segments (by rwa [List.dropLast_concat]) data
  rw [← List.cons_append] at hrun ⊢
  rw [hrun]
  cases hget : t₁.get? (c :: way ++ [last]) with
  | some child =>
    have hsome : t.peek (c :: way ++ [last]) ≠ none := by
      rw [← hplace₁]
      unfold Tree.peek
      rw [hget]
      exact Option.some_ne_none _
    rw [h₁.create hfits (List.cons_ne_nil _ _) (Tree.clear_concat hparent₁ last),
      List.dropLast_concat, if_pos hparent₁, hget, if_neg hsome]
    rfl
  | none =>
    have hnone := Tree.peek_eq_none_iff.mpr hget
    obtain ⟨m₂, m₃, t₃, hcreate, hwrite, -⟩ :=
      h₁.create_write hdistinct₁ hfits hparent₁ hnone data
    rw [hcreate]
    dsimp only
    rw [hwrite, if_pos (hplace₁.symm.trans hnone)]

/-- What is listed are the names that lead to files. -/
lemma run_list (h : Located a m base t place names) :
    ∃ listed, (m.run (a.list place.container).run).1 = .ok listed ∧ ∀ name, name ∈ listed ↔
      ∃ others data, Account.segments name = .ok others ∧
        t.peek (place.container.toUTF8 :: others) = some (.file data) := by
  obtain ⟨entries, hentries⟩ := Tree.peek_eq_directory_iff.mp h.there
  have hclear : t.Clear [place.container.toUTF8] :=
    Tree.clear_of_peek (by rw [h.there]; exact Option.some_ne_none _)
  have hlook := h.anchored.look h.fits.container (List.cons_ne_nil _ _) hclear
  rw [hentries] at hlook
  have hkept : IsKept a.root base m := ⟨t, h.anchored, h.spelled⟩
  refine ⟨(Tree.directory entries).blobNames, ?_, fun name => ?_⟩
  · rw [hkept.run_list (containerPath_eq a h.container) hlook]
  · have hfile : ∀ others data, (others, data) ∈ (Tree.directory entries).files ↔
        t.peek (place.container.toUTF8 :: others) = some (.file data) := by
      intro others data
      have happend := Tree.get?_append t [place.container.toUTF8] others
      rw [hentries, Option.bind_some] at happend
      rw [Tree.mem_files_iff (h.spelled.distinct.part hentries), ← happend,
        ← Tree.peek_eq_file_iff]
      rfl
    rw [Tree.blobNames, (List.mergeSort_perm _ _).mem_iff, List.mem_map]
    constructor
    · rintro ⟨⟨others, data⟩, hmem, rfl⟩
      obtain ⟨c, others', name, heq, hsegments⟩ :=
        h.spelled.exists_segments _ _ ((hfile others data).mp hmem)
      cases heq
      refine ⟨others, data, ?_, (hfile others data).mp hmem⟩
      dsimp only
      rwa [listedName_of_segments hsegments]
    · rintro ⟨others, data, hsegments, hpeek⟩
      exact ⟨(others, data), (hfile others data).mpr hpeek, listedName_of_segments hsegments⟩

end Located

/-! ## The four cases -/

/-- What is answered about a place whose container is there, by what stands where its name leads: a
file, nothing, a directory, or a file further up. -/
structure AnswersByPlace (a : Account) (m : Machine) (path : Path) (listed : List String)
    (place : Locator) : Prop where
  blob : place.name ∈ listed →
    (∃ data, (m.run (a.get place).run).1 = .ok data) ∧
      (m.run (a.deleteBlob place).run).1 = .ok () ∧
      ∀ data, (m.run (a.put place data).run).1 = .error (.blobExists place)
  missing : place.name ∉ listed → m.isDirectory path = false →
    (∀ other ∈ listed, ¬ parts other <+: parts place.name) →
      (m.run (a.get place).run).1 = .error (.blobNotFound place) ∧
        (m.run (a.deleteBlob place).run).1 = .error (.blobNotFound place) ∧
        ∀ data, (m.run (a.put place data).run).1 = .ok ()
  directory : m.isDirectory path = true →
    (m.run (a.get place).run).1 = .error (.disk .isDirectory) ∧
      (m.run (a.deleteBlob place).run).1 = .error (.disk .isDirectory) ∧
      ∀ data, (m.run (a.put place data).run).1 = .error (.blobExists place)
  below : ∀ other ∈ listed, other ≠ place.name → parts other <+: parts place.name →
    (m.run (a.get place).run).1 = .error (.disk .notDirectory) ∧
      (m.run (a.deleteBlob place).run).1 = .error (.disk .notDirectory) ∧
      ∀ data, ∃ fault, (m.run (a.put place data).run).1 = .error (.disk fault)

/-- The answers about a place are those of a flat set of names: they depend only on whether the name
is listed. -/
structure AnswersByName (a : Account) (m : Machine) (listed : List String) (place : Locator) :
    Prop where
  blob : place.name ∈ listed →
    (∃ data, (m.run (a.get place).run).1 = .ok data) ∧
      (m.run (a.deleteBlob place).run).1 = .ok () ∧
      ∀ data, (m.run (a.put place data).run).1 = .error (.blobExists place)
  missing : place.name ∉ listed →
    (m.run (a.get place).run).1 = .error (.blobNotFound place) ∧
      (m.run (a.deleteBlob place).run).1 = .error (.blobNotFound place) ∧
      ∀ data, (m.run (a.put place data).run).1 ≠ .error (.blobExists place)

/-- The answers depend only on whether the name is listed exactly if it is, or neither a directory
stands where it leads nor a listed name leads above it. -/
lemma AnswersByPlace.answersByName_iff {a : Account} {m : Machine} {path : Path}
    {listed : List String} {place : Locator} (h : AnswersByPlace a m path listed place) :
    AnswersByName a m listed place ↔ place.name ∈ listed ∨
      m.isDirectory path = false ∧ ∀ other ∈ listed, ¬ parts other <+: parts place.name := by
  constructor
  · intro hname
    by_cases hlisted : place.name ∈ listed
    · exact .inl hlisted
    · obtain ⟨hget, -⟩ := hname.missing hlisted
      refine .inr ⟨?_, fun other hother hparts => ?_⟩
      · by_contra hdir
        obtain ⟨hget', -⟩ := h.directory (by simpa using hdir)
        rw [hget] at hget'
        cases hget'
      · have hne : other ≠ place.name := fun heq => hlisted (heq ▸ hother)
        obtain ⟨hget', -⟩ := h.below other hother hne hparts
        rw [hget] at hget'
        cases hget'
  · intro hplace
    refine ⟨h.blob, fun hunlisted => ?_⟩
    obtain ⟨hdir, habove⟩ := hplace.resolve_left hunlisted
    obtain ⟨hget, hdelete, hput⟩ := h.missing hunlisted hdir habove
    refine ⟨hget, hdelete, fun data => ?_⟩
    rw [hput data]
    exact fun heq => by cases heq

namespace Located

variable {a : Account} {m : Machine} {base : Location} {t : Tree ByteArray} {place : Locator}
  {names : Location}

/-- Where no file is on the way, the answers depend on what stands at the place. -/
lemma answers_of_clear (h : Located a m base t place names)
    (hclear : t.Clear (place.container.toUTF8 :: names)) :
    m.isDirectory (a.root.append (place.container.toUTF8 :: names)) =
        decide (t.peek (place.container.toUTF8 :: names) = some .directory) ∧
      (m.run (a.get place).run).1 =
        (match t.peek (place.container.toUTF8 :: names) with
        | none => .error (.blobNotFound place)
        | some (.file data) => .ok data
        | some .directory => .error (.disk .isDirectory)) ∧
      (m.run (a.deleteBlob place).run).1 =
        (match t.peek (place.container.toUTF8 :: names) with
        | none => .error (.blobNotFound place)
        | some (.file _) => .ok ()
        | some .directory => .error (.disk .isDirectory)) := by
  have hne : place.container.toUTF8 :: names ≠ [] := List.cons_ne_nil _ _
  rw [h.run_get, h.run_deleteBlob, h.anchored.read h.fits hne hclear,
    h.anchored.takeAway h.fits hne hclear]
  unfold Machine.isDirectory
  rw [h.anchored.look h.fits hne hclear]
  unfold Tree.peek
  cases hget : t.get? (place.container.toUTF8 :: names) with
  | none => exact ⟨rfl, rfl, rfl⟩
  | some child => cases child <;> exact ⟨rfl, rfl, rfl⟩

/-- Behind a file nothing is read, removed or put. -/
lemma answers_of_not_clear (h : Located a m base t place names)
    (hclear : ¬ t.Clear (place.container.toUTF8 :: names)) :
    m.isDirectory (a.root.append (place.container.toUTF8 :: names)) = false ∧
      (m.run (a.get place).run).1 = .error (.disk .notDirectory) ∧
      (m.run (a.deleteBlob place).run).1 = .error (.disk .notDirectory) ∧
      ∀ data, ∃ fault, (m.run (a.put place data).run).1 = .error (.disk fault) := by
  unfold Tree.Clear at hclear
  push Not at hclear
  obtain ⟨front, content, ⟨rest, hwhole⟩, hne, hfile⟩ := hclear
  have hwhole := hwhole.symm
  have hrest : rest ≠ [] := by
    rintro rfl
    exact hne (by rw [hwhole, List.append_nil])
  have hfront : front ≠ [] := by
    obtain ⟨c, others, -, heq, -⟩ := h.spelled.exists_segments _ _ hfile
    rw [heq]
    exact List.cons_ne_nil c others
  have hfits : Fits a.root (front ++ rest) := hwhole ▸ h.fits
  have hlook := h.anchored.look_of_file hfits hfront hrest hfile
  rw [← hwhole] at hlook
  refine ⟨?_, ?_, ?_, fun data => ?_⟩
  · unfold Machine.isDirectory
    rw [hlook]
  · rw [h.run_get]
    unfold Machine.read
    rw [hlook]
    rfl
  · rw [h.run_deleteBlob]
    unfold Machine.takeAway
    rw [hlook]
    rfl
  · -- the file is also on the way to the directory of the place
    have hway : place.container.toUTF8 :: names.dropLast = front ++ rest.dropLast := by
      rw [← List.dropLast_append_of_ne_nil hrest, ← hwhole,
        List.dropLast_cons_of_ne_nil (segments_ne_nil h.segments)]
    have hshort : Fits a.root (front ++ rest.dropLast) := by
      rw [← List.dropLast_concat_getLast hrest, ← List.append_assoc] at hfits
      exact hfits.left
    obtain ⟨fault, hmake⟩ := h.anchored.run_makeDirectories_of_file hshort hfront hfile
    rw [← hway] at hmake
    exact ⟨fault, congrArg Prod.fst (run_put_of_not_made h.container h.segments hmake data)⟩

/-- A listed name leads above the place exactly if a file is on the way to it. -/
lemma clear_iff (h : Located a m base t place names) {listed : List String}
    (hlisted : ∀ name, name ∈ listed ↔ ∃ others data, Account.segments name = .ok others ∧
      t.peek (place.container.toUTF8 :: others) = some (.file data)) :
    t.Clear (place.container.toUTF8 :: names) ↔
      ∀ other ∈ listed, other ≠ place.name → ¬ parts other <+: parts place.name := by
  constructor
  · intro hclear other hother hne hparts
    obtain ⟨others, data, hsegments, hfile⟩ := (hlisted other).mp hother
    refine hclear _ data ?_ (fun heq => hne ?_) hfile
    · rw [List.cons_prefix_cons, ← (segments_eq_ok_iff.mp h.segments).2,
        ← (segments_eq_ok_iff.mp hsegments).2]
      exact ⟨rfl, hparts.map _⟩
    · rw [(List.cons.inj heq).2] at hsegments
      exact eq_of_segments hsegments h.segments
  · intro hnone front content hfront hne hfile
    obtain ⟨c, others, other, rfl, hsegments⟩ := h.spelled.exists_segments _ _ hfile
    obtain ⟨rfl, hstart⟩ := List.cons_prefix_cons.mp hfront
    refine hnone other ((hlisted other).mpr ⟨others, content, hsegments, hfile⟩) ?_
      (parts_prefix_of_segments hsegments h.segments hstart)
    rintro rfl
    rw [h.segments] at hsegments
    cases hsegments
    exact hne rfl

/-- What is answered about a place. -/
lemma answersByPlace (h : Located a m base t place names) :
    ∃ listed, (m.run (a.list place.container).run).1 = .ok listed ∧
      AnswersByPlace a m (a.root.append (place.container.toUTF8 :: names)) listed place := by
  obtain ⟨listed, hrun, hlisted⟩ := h.run_list
  have hname : place.name ∈ listed ↔
      ∃ data, t.peek (place.container.toUTF8 :: names) = some (.file data) := by
    rw [hlisted]
    constructor
    · rintro ⟨others, data, hsegments, hfile⟩
      rw [h.segments] at hsegments
      cases hsegments
      exact ⟨data, hfile⟩
    · rintro ⟨data, hfile⟩
      exact ⟨names, data, h.segments, hfile⟩
  refine ⟨listed, hrun, ?_, ?_, ?_, ?_⟩
  · intro hmem
    obtain ⟨data, hfile⟩ := hname.mp hmem
    have hclear : t.Clear (place.container.toUTF8 :: names) :=
      Tree.clear_of_peek (by rw [hfile]; exact Option.some_ne_none _)
    obtain ⟨-, hget, hdelete⟩ := h.answers_of_clear hclear
    rw [hfile] at hget hdelete
    refine ⟨⟨data, hget⟩, hdelete, fun new => ?_⟩
    rw [h.run_put_of_clear hclear, hfile, if_neg (Option.some_ne_none _)]
  · intro hmem hdir habove
    have hclear := (h.clear_iff hlisted).mpr fun other hother _ => habove other hother
    obtain ⟨hisDirectory, hget, hdelete⟩ := h.answers_of_clear hclear
    rw [hdir] at hisDirectory
    have hnone : t.peek (place.container.toUTF8 :: names) = none := by
      cases hpeek : t.peek (place.container.toUTF8 :: names) with
      | none => rfl
      | some node =>
        cases node with
        | file data => exact absurd (hname.mpr ⟨data, hpeek⟩) hmem
        | directory => exact absurd hpeek (of_decide_eq_false hisDirectory.symm)
    rw [hnone] at hget hdelete
    refine ⟨hget, hdelete, fun new => ?_⟩
    rw [h.run_put_of_clear hclear, if_pos hnone]
  · intro hdir
    by_cases hclear : t.Clear (place.container.toUTF8 :: names)
    · obtain ⟨hisDirectory, hget, hdelete⟩ := h.answers_of_clear hclear
      rw [hdir] at hisDirectory
      have hpeek := of_decide_eq_true hisDirectory.symm
      rw [hpeek] at hget hdelete
      refine ⟨hget, hdelete, fun new => ?_⟩
      rw [h.run_put_of_clear hclear, hpeek, if_neg (Option.some_ne_none _)]
    · obtain ⟨hisDirectory, -⟩ := h.answers_of_not_clear hclear
      rw [hdir] at hisDirectory
      cases hisDirectory
  · intro other hother hne hparts
    exact (h.answers_of_not_clear fun hclear =>
      (h.clear_iff hlisted).mp hclear other hother hne hparts).2

end Located

/-- A place whose path is taken, in a container that is there after calls that kept each file where
the name of a blob leads. -/
lemma exists_located {a : Account} {m : Machine} {base : Location} {place : Locator}
    (hkept : IsKept a.root base m) (htaken : IsTaken (a.blobPath place))
    (hthere : m.isThere (a.root.child place.container.toUTF8) = .ok true) :
    ∃ t names, Located a m base t place names ∧
      a.blobPath place = .ok (a.root.append (place.container.toUTF8 :: names)) := by
  obtain ⟨t, hanchored, hspelled⟩ := hkept
  obtain ⟨names, hcontainer, hsegments, hfits, hpath⟩ := Account.exists_segments_of_isTaken htaken
  have hroot : t.peek [] = some .directory := by rw [Tree.peek_nil, hanchored.isDirectory]
  have hisThere := hanchored.isThere hfits.container (List.cons_ne_nil _ _)
    (Tree.clear_concat hroot place.container.toUTF8)
  change m.isThere (a.root.append [place.container.toUTF8]) = _ at hthere
  rw [hthere, Except.ok.injEq] at hisThere
  refine ⟨t, names, ⟨hanchored, hspelled, hcontainer, hsegments, hfits, ?_⟩, hpath⟩
  obtain ⟨child, hchild⟩ := Option.isSome_iff_exists.mp hisThere.symm
  cases child with
  | file data =>
    exact absurd (Tree.peek_eq_file_iff.mpr hchild) (hspelled.peek_container_ne_file _ data)
  | directory entries => exact Tree.peek_eq_directory_iff.mpr ⟨entries, hchild⟩

/-- After any calls to a store that started in an empty directory, whether they succeeded or not, the
answers about a place in a container that is there depend on what stands where its name leads.  They
depend on the listing alone exactly if the name is listed, or neither a directory stands there nor a
listed name leads above it. -/
theorem answers_by_name_iff (a : Account) {m : Machine} {base : Location}
    (hlook : m.look a.root = .ok (base, .directory [])) (hlimit : m.sizeLimit = none)
    (calls : List Call) {place : Locator} (htaken : IsTaken (a.blobPath place))
    (hthere : (a.answerAll m calls).2.isThere (a.root.child place.container.toUTF8) = .ok true) :
    ∃ path listed, a.blobPath place = .ok path ∧
      ((a.answerAll m calls).2.run (a.list place.container).run).1 = .ok listed ∧
      AnswersByPlace a (a.answerAll m calls).2 path listed place ∧
      (AnswersByName a (a.answerAll m calls).2 listed place ↔ place.name ∈ listed ∨
        (a.answerAll m calls).2.isDirectory path = false ∧
          ∀ other ∈ listed, ¬ parts other <+: parts place.name) := by
  obtain ⟨t, names, hlocated, hpath⟩ :=
    exists_located (Account.isKept_of_empty hlook hlimit calls) htaken hthere
  obtain ⟨listed, hlist, hanswers⟩ := hlocated.answersByPlace
  exact ⟨_, listed, hpath, hlist, hanswers, hanswers.answersByName_iff⟩

/-- The server after a blob was put below a directory of its container. -/
def nestedServer : Machine :=
  (serverAccount.answerAll emptyServer [.put ⟨"c", "a/b"⟩ "1".toUTF8]).2

/-- A directory is answered neither as a blob nor as nothing: it is not listed, it is neither read
nor deleted, and nothing can be put in its place. -/
theorem directory_answered :
    (nestedServer.run (serverAccount.list "c").run).1 = .ok ["a/b"] ∧
      (nestedServer.run (serverAccount.get ⟨"c", "a"⟩).run).1 = .error (.disk .isDirectory) ∧
      (nestedServer.run (serverAccount.deleteBlob ⟨"c", "a"⟩).run).1 =
        .error (.disk .isDirectory) ∧
      (nestedServer.run (serverAccount.put ⟨"c", "a"⟩ "2".toUTF8).run).1 =
        .error (.blobExists ⟨"c", "a"⟩) ∧
      ¬ AnswersByName serverAccount nestedServer ["a/b"] ⟨"c", "a"⟩ := by
  have hget : (nestedServer.run (serverAccount.get ⟨"c", "a"⟩).run).1 =
      .error (.disk .isDirectory) := by decide +kernel
  have hlist : nestedServer.run (serverAccount.list "c").run =
      (.ok (Tree.directory [(Name.ofChars ['a'],
        Tree.directory [(Name.ofChars ['b'], Tree.file "1".toUTF8)])]).blobNames, nestedServer) :=
    (Account.isKept_of_empty look_emptyServer rfl _).run_list (containerPath_eq _ (by decide))
      (by cbv)
  have hnames : (nestedServer.run (serverAccount.list "c").run).1 = .ok ["a/b"] := by
    rw [hlist]
    decide +kernel
  refine ⟨hnames, hget, by decide +kernel, by decide +kernel, fun hname => ?_⟩
  obtain ⟨hget', -⟩ := hname.missing (by decide)
  rw [hget] at hget'
  cases hget'

/-- Calls of which the first is refused, but leaves a directory behind. -/
def refusedCalls : List Call := [.put ⟨"c", "d/\x00"⟩ "1".toUTF8, .put ⟨"c", "a/b"⟩ "2".toUTF8]

/-- A directory that was left behind by a put is not answered by its name alone, although no blob is
below it, and nor is a name behind a blob. -/
theorem littered_names_answered :
    (∃ listed, ((serverAccount.answerAll emptyServer refusedCalls).2.run
        (serverAccount.list "c").run).1 = .ok listed ∧
      ¬ AnswersByName serverAccount (serverAccount.answerAll emptyServer refusedCalls).2 listed
        ⟨"c", "d"⟩) ∧
    ∃ listed, ((serverAccount.answerAll emptyServer refusedCalls).2.run
        (serverAccount.list "c").run).1 = .ok listed ∧
      ¬ AnswersByName serverAccount (serverAccount.answerAll emptyServer refusedCalls).2 listed
        ⟨"c", "a/b/x"⟩ := by
  have hlook := look_emptyServer
  have hthere : (serverAccount.answerAll emptyServer refusedCalls).2.isThere
      (serverAccount.root.child "c".toUTF8) = .ok true := by decide +kernel
  have hlisted : ((serverAccount.answerAll emptyServer refusedCalls).2.run
      (serverAccount.list "c").run).1 = .ok ["a/b"] := by
    have hlist : (serverAccount.answerAll emptyServer refusedCalls).2.run
        (serverAccount.list "c").run = (.ok (Tree.directory [(Name.ofChars ['d'], .directory []),
          (Name.ofChars ['a'], .directory [(Name.ofChars ['b'], .file "2".toUTF8)])]).blobNames,
          (serverAccount.answerAll emptyServer refusedCalls).2) :=
      (Account.isKept_of_empty hlook rfl refusedCalls).run_list
        (containerPath_eq _ (by decide)) (by cbv)
    rw [hlist]
    decide +kernel
  constructor
  · have htaken : IsTaken (serverAccount.blobPath ⟨"c", "d"⟩) := by decide +kernel
    obtain ⟨path, listed, hpath, hlist, -, hiff⟩ :=
      answers_by_name_iff serverAccount hlook rfl refusedCalls htaken hthere
    refine ⟨listed, hlist, fun hname => ?_⟩
    have hdirectory : ((serverAccount.blobPath ⟨"c", "d"⟩).map fun path =>
        (serverAccount.answerAll emptyServer refusedCalls).2.isDirectory path) = .ok true := by
      decide +kernel
    rw [hpath] at hdirectory
    rw [hlisted] at hlist
    cases hlist
    rcases hiff.mp hname with hmem | ⟨hdir, -⟩
    · exact absurd hmem (by decide)
    · rw [Except.map, hdir] at hdirectory
      cases hdirectory
  · have htaken : IsTaken (serverAccount.blobPath ⟨"c", "a/b/x"⟩) := by decide +kernel
    obtain ⟨path, listed, -, hlist, -, hiff⟩ :=
      answers_by_name_iff serverAccount hlook rfl refusedCalls htaken hthere
    refine ⟨listed, hlist, fun hname => ?_⟩
    rw [hlisted] at hlist
    cases hlist
    rcases hiff.mp hname with hmem | ⟨-, habove⟩
    · exact absurd hmem (by decide)
    · exact habove "a/b" (List.mem_singleton.mpr rfl) (by decide)

end ClaimCheck.Disk
