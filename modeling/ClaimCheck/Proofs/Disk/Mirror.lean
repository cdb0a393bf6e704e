import Mathlib
import ClaimCheck.Proofs.Disk.Spelled
import ClaimCheck.Proofs.Store.Account

/-!
# Trees that mirror accounts

The tree below the root of a store on disk mirrors an account in memory when its first directories
are the containers and its files are the blobs, each at the location that its name leads to
(`Mirrors`).  What makes the flat account and the tree agree in more than their blobs is that every
directory below a container has a file somewhere below it: a name that is a directory on disk leads
above some blob, so a name that overlaps no blob leads to a file or to nothing
(`Reaches.peek`).

Each call is answered alike by both and leaves a tree that mirrors the account again.  While the
directories of a deleted blob are removed, those on the way may be empty for a moment, which is why
`MirrorsExcept` leaves some directories out.
-/

namespace ClaimCheck.Disk

open Store

/-! ## Mirrors -/

/-- The tree of a store on disk holds what an account in memory holds: its first directories are the
containers, and its files are the blobs. -/
structure Holds (t : Tree ByteArray) (s : Store.Account) : Prop where
  container_iff : ∀ c, t.peek [c] = some .directory ↔
    ∃ container, container.toUTF8 = c ∧ s.hasContainer container
  file_iff : ∀ c names data, t.peek (c :: names) = some (.file data) ↔
    ∃ place : Locator, place.container.toUTF8 = c ∧ Account.segments place.name = .ok names ∧
      s.blob? place = some data

/-- The tree of a store on disk holds what an account in memory holds, and every directory below a
container holds a file, but for directories that are left out. -/
structure MirrorsExcept (leftOut : Location → Prop) (t : Tree ByteArray) (s : Store.Account) :
    Prop extends Holds t s where
  available : s.isUnavailable = false
  distinct : t.Distinct
  peek_nil : t.peek [] = some .directory
  inhabited : ∀ c names, names ≠ [] → ¬ leftOut (c :: names) →
    t.peek (c :: names) = some .directory →
      ∃ rest data, t.peek (c :: names ++ rest) = some (.file data)
  named : ∀ place data, s.blob? place = some data → ∃ names, Account.segments place.name = .ok names

/-- The tree of a store on disk holds what an account in memory holds, and every directory below a
container holds a file. -/
abbrev Mirrors : Tree ByteArray → Store.Account → Prop := MirrorsExcept fun _ => False

/-- Nothing mirrors nothing. -/
lemma mirrors_empty : Mirrors (.directory []) {} where
  available := rfl
  distinct := Tree.distinct_empty
  peek_nil := rfl
  container_iff c := by
    refine iff_of_false (fun h => by cases h) ?_
    rintro ⟨container, -, hsome⟩
    cases hsome
  file_iff c names data := by
    refine iff_of_false (fun h => by cases h) ?_
    rintro ⟨place, -, -, hblob⟩
    cases hblob
  inhabited c names _ _ h := by cases h
  named place data h := by cases h

section Looking

variable {leftOut : Location → Prop} {t : Tree ByteArray} {s s' : Store.Account} {root : Path}
  {place : Locator} {names : Location}

/-- The name leads neither above nor below any blob that is in the container. -/
def StaysApart (s : Store.Account) (place : Locator) : Prop :=
  ∀ other ∈ s.blobNames place.container, ¬ Overlaps place.name other

/-- A blob stays apart from those that are in its container. -/
lemma StaysApart.not_overlaps (h : StaysApart s place) {other : Locator} {data : ByteArray}
    (hcontainer : other.container = place.container) (hblob : s.blob? other = some data) :
    ¬ Overlaps place.name other.name := by
  rw [Store.Account.blob?_eq, hcontainer] at hblob
  obtain ⟨blobs, hblobs, hget⟩ := Option.bind_eq_some_iff.mp hblob
  refine h other.name ?_
  unfold Store.Account.blobNames
  rw [hblobs]
  exact Keyed.mem_keys.mpr ⟨data, hget⟩

/-- A place that the store on disk accepts: its container and its name lead to a location below the
root, and the name stays apart from those of the blobs that are there. -/
structure Reaches (root : Path) (s : Store.Account) (place : Locator) (names : Location) : Prop where
  container : isEntryName place.container = true
  segments : Account.segments place.name = .ok names
  fits : Fits root (place.container.toUTF8 :: names)
  apart : StaysApart s place

/-- Only the containers of an account are mirrored, and what is in them. -/
lemma MirrorsExcept.of_get?_eq (h : MirrorsExcept leftOut t s)
    (havailable : s'.isUnavailable = s.isUnavailable)
    (hget : ∀ container, s'.containers.get? container = s.containers.get? container) :
    MirrorsExcept leftOut t s' := by
  have hblob : s'.blob? = s.blob? := by
    funext place
    rw [Store.Account.blob?_eq, Store.Account.blob?_eq, hget]
  have hcontainer : s'.hasContainer = s.hasContainer := by
    funext container
    exact congrArg Option.isSome (hget container)
  refine ⟨⟨?_, ?_⟩, havailable.trans h.available, h.distinct, h.peek_nil, h.inhabited, ?_⟩
  · rw [hcontainer]
    exact h.container_iff
  · rw [hblob]
    exact h.file_iff
  · rw [hblob]
    exact h.named

/-- A container is a directory. -/
lemma MirrorsExcept.peek_container (h : MirrorsExcept leftOut t s) (container : String) :
    t.peek [container.toUTF8] =
      if s.hasContainer container then some .directory else none := by
  have hiff : t.peek [container.toUTF8] = some .directory ↔ s.hasContainer container := by
    rw [h.container_iff]
    constructor
    · rintro ⟨other, hbytes, hsome⟩
      rwa [← toUTF8_injective hbytes]
    · exact fun hsome => ⟨container, rfl, hsome⟩
  split
  · next hsome => exact hiff.mpr hsome
  · next hnone =>
    cases hpeek : t.peek [container.toUTF8] with
    | none => rfl
    | some node =>
      cases node with
      | file data =>
        obtain ⟨place, -, hsegments, -⟩ := (h.file_iff _ _ _).mp hpeek
        exact absurd rfl (segments_ne_nil hsegments)
      | directory => exact absurd (hiff.mp hpeek) hnone

/-- A blob is a file. -/
lemma MirrorsExcept.peek_eq_file_iff (h : MirrorsExcept leftOut t s)
    (hsegments : Account.segments place.name = .ok names) {data : ByteArray} :
    t.peek (place.container.toUTF8 :: names) = some (.file data) ↔ s.blob? place = some data := by
  rw [h.file_iff]
  constructor
  · rintro ⟨other, hbytes, hother, hblob⟩
    have hplace : other = place := Locator.ext (toUTF8_injective hbytes)
      (eq_of_segments hother hsegments)
    rwa [← hplace]
  · exact fun hblob => ⟨place, rfl, hsegments, hblob⟩

/-- No file is in the way to a container. -/
lemma MirrorsExcept.clear_container (h : MirrorsExcept leftOut t s) (c : Name) : t.Clear [c] := by
  intro front content hfront hne hfile
  have hnil : front = [] := by
    rcases List.prefix_cons_iff.mp hfront with hnil | ⟨rest, rfl, hrest⟩
    · exact hnil
    · rw [List.prefix_nil.mp hrest] at hne
      exact absurd rfl hne
  rw [hnil, h.peek_nil] at hfile
  cases hfile

/-- No file is in the way to a place that is accepted. -/
lemma Reaches.clear (hreaches : Reaches root s place names) (h : MirrorsExcept leftOut t s) :
    t.Clear (place.container.toUTF8 :: names) := by
  intro front content hfront hne hfile
  rcases List.prefix_cons_iff.mp hfront with rfl | ⟨others, rfl, hothers⟩
  · rw [h.peek_nil] at hfile
    cases hfile
  · obtain ⟨other, hbytes, hsegments, hblob⟩ := (h.file_iff _ _ _).mp hfile
    refine hreaches.apart.not_overlaps (toUTF8_injective hbytes) hblob
      (overlaps_of_segments hreaches.segments hsegments ?_ (.inr hothers))
    rintro rfl
    exact hne rfl

/-- A place that is accepted is a file or nothing. -/
lemma Reaches.peek (hreaches : Reaches root s place names) (h : Mirrors t s) :
    t.peek (place.container.toUTF8 :: names) = (s.blob? place).map .file := by
  cases hpeek : t.peek (place.container.toUTF8 :: names) with
  | none =>
    cases hblob : s.blob? place with
    | none => rfl
    | some data =>
      rw [(h.peek_eq_file_iff hreaches.segments).mpr hblob] at hpeek
      cases hpeek
  | some node =>
    cases node with
    | file data =>
      rw [(h.peek_eq_file_iff hreaches.segments).mp hpeek]
      rfl
    | directory =>
      -- a file below it would be a blob with an overlapping name
      have hne := segments_ne_nil hreaches.segments
      obtain ⟨rest, data, hfile⟩ := h.inhabited _ _ hne id hpeek
      have hrest : rest ≠ [] := by
        rintro rfl
        rw [List.append_nil, hpeek] at hfile
        cases hfile
      obtain ⟨other, hbytes, hsegments, hblob⟩ := (h.file_iff _ _ _).mp hfile
      exact absurd (overlaps_of_segments hreaches.segments hsegments (by simpa using hrest)
        (.inl (List.prefix_append _ _)))
          (hreaches.apart.not_overlaps (toUTF8_injective hbytes) hblob)

/-- What stands at a place that is accepted. -/
lemma Reaches.get? (hreaches : Reaches root s place names) (h : Mirrors t s) :
    t.get? (place.container.toUTF8 :: names) = (s.blob? place).map .file := by
  have hpeek := hreaches.peek h
  cases hblob : s.blob? place with
  | none =>
    rw [hblob] at hpeek
    exact Tree.peek_eq_none_iff.mp hpeek
  | some data =>
    rw [hblob] at hpeek
    exact Tree.peek_eq_file_iff.mp hpeek

end Looking

/-! ## Reading -/

section Reading

variable {m : Machine} {a : Account} {base : Location} {t : Tree ByteArray} {s : Store.Account}
  {place : Locator} {names : Location} {container : String}

/-- A container is found when it is there. -/
lemma run_presentContainer (h : Anchored m a.root base t) (hm : Mirrors t s)
    (hname : isEntryName container = true) (hfits : Fits a.root [container.toUTF8]) :
    m.run (a.presentContainer container).run =
      (if s.hasContainer container then .ok (a.root.append [container.toUTF8])
        else .error (.containerNotFound container), m) := by
  have hthere : (t.get? [container.toUTF8]).isSome = s.hasContainer container := by
    have hpeek := hm.peek_container container
    have hsome : (t.get? [container.toUTF8]).isSome = (t.peek [container.toUTF8]).isSome := by
      unfold Tree.peek
      rw [Option.isSome_map]
    rw [hsome, hpeek]
    split
    · next hcontainer => exact hcontainer.symm
    · next hcontainer => exact (Bool.eq_false_iff.mpr hcontainer).symm
  refine run_presentContainer_of_isThere hname ?_
  rw [h.isThere hfits (List.cons_ne_nil _ _) (hm.clear_container _), hthere]

/-- The path of a blob goes on from that of its container. -/
lemma append_container (root : Path) (c : Name) (names : List Name) :
    (root.append [c]).append names = root.append (c :: names) := by
  rw [Path.append_append]
  rfl

/-- A blob is read alike. -/
lemma run_get (h : Anchored m a.root base t) (hm : Mirrors t s)
    (hreaches : Reaches a.root s place names) :
    m.run (a.get place).run = ((s.answer (.get place)).1, m) := by
  have hcontainer := run_presentContainer h hm hreaches.container hreaches.fits.container
  have hget := hreaches.get? hm
  rw [Store.Account.blob?_eq] at hget
  unfold Account.get
  rw [Machine.run_attempt_bind, hcontainer, Store.Account.answer_get hm.available,
    Store.Account.hasContainer_eq]
  cases hblobs : s.containers.get? place.container with
  | none => rfl
  | some blobs =>
    rw [hblobs, Option.bind_some] at hget
    rw [Option.isSome_some, if_pos rfl]
    dsimp only
    rw [Machine.run_attempt_bind, Machine.run_liftM, hreaches.segments]
    dsimp only
    rw [Machine.run_wrapping, Machine.run_perform, append_container]
    change ((m.read _).mapError _, m) = _
    rw [h.read hreaches.fits (List.cons_ne_nil _ _) (hreaches.clear hm), hget]
    cases blobs.get? place.name <;> rfl

/-- The files below a container are its blobs. -/
lemma MirrorsExcept.mem_files_iff (hm : Mirrors t s) {blobs : Blobs}
    (hblobs : s.containers.get? container = some blobs) {entries : Tree.Entries ByteArray}
    (hdir : t.get? [container.toUTF8] = some (.directory entries)) {data : ByteArray} :
    (names, data) ∈ (Tree.directory entries).files ↔
      ∃ name, Account.segments name = .ok names ∧ blobs.get? name = some data := by
  have hwhole : t.get? (container.toUTF8 :: names) = (Tree.directory entries).get? names := by
    have happend := Tree.get?_append t [container.toUTF8] names
    rwa [hdir, Option.bind_some] at happend
  rw [Tree.mem_files_iff (hm.distinct.part hdir), ← hwhole, ← Tree.peek_eq_file_iff, hm.file_iff]
  constructor
  · rintro ⟨place, hbytes, hsegments, hblob⟩
    rw [Store.Account.blob?_eq, toUTF8_injective hbytes, hblobs] at hblob
    exact ⟨place.name, hsegments, hblob⟩
  · rintro ⟨name, hsegments, hblob⟩
    refine ⟨⟨container, name⟩, rfl, hsegments, ?_⟩
    rw [Store.Account.blob?_eq, hblobs]
    exact hblob

/-- The names of the blobs of a container are listed alike. -/
lemma blobNames_eq_keys (hm : Mirrors t s) {blobs : Blobs}
    (hblobs : s.containers.get? container = some blobs) {entries : Tree.Entries ByteArray}
    (hdir : t.get? [container.toUTF8] = some (.directory entries)) :
    (Tree.directory entries).blobNames = blobs.keys := by
  have hname : ∀ file ∈ (Tree.directory entries).files,
      Account.segments (listedName file.1) = .ok file.1 := by
    rintro ⟨names, data⟩ hmem
    obtain ⟨name, hsegments, -⟩ := (hm.mem_files_iff hblobs hdir).mp hmem
    rwa [listedName_of_segments hsegments]
  have hnames : ((Tree.directory entries).files.map fun file => listedName file.1) =
      ((Tree.directory entries).files.map Prod.fst).map listedName := by
    rw [List.map_map]
    rfl
  unfold Tree.blobNames
  rw [hnames]
  refine mergeSort_eq_keys ?_ fun name => ?_
  · -- each file is listed once, and its location is read back from its name
    refine (Tree.Distinct.nodup_files _ (hm.distinct.part hdir)).map_on ?_
    rintro location hlocation other hother heq
    obtain ⟨file, hmem, rfl⟩ := List.mem_map.mp hlocation
    obtain ⟨file', hmem', rfl⟩ := List.mem_map.mp hother
    have hok := hname file hmem
    rw [heq, hname file' hmem'] at hok
    exact (Except.ok.inj hok).symm
  · rw [Keyed.mem_keys, List.map_map, List.mem_map]
    constructor
    · rintro ⟨⟨names, data⟩, hmem, rfl⟩
      obtain ⟨name, hsegments, hblob⟩ := (hm.mem_files_iff hblobs hdir).mp hmem
      refine ⟨data, ?_⟩
      dsimp only [Function.comp_apply]
      rwa [listedName_of_segments hsegments]
    · rintro ⟨data, hblob⟩
      obtain ⟨names, hsegments⟩ := hm.named ⟨container, name⟩ data (by
        rw [Store.Account.blob?_eq, hblobs]
        exact hblob)
      exact ⟨(names, data), (hm.mem_files_iff hblobs hdir).mpr ⟨name, hsegments, hblob⟩,
        listedName_of_segments hsegments⟩

/-- A container is listed alike. -/
lemma run_list (hkept : IsKept a.root base m) (h : Anchored m a.root base t) (hm : Mirrors t s)
    (hname : isEntryName container = true) (hfits : Fits a.root [container.toUTF8]) :
    m.run (a.list container).run = ((s.answer (.list container)).1, m) := by
  cases hblobs : s.containers.get? container with
  | none =>
    unfold Account.list
    rw [Machine.run_attempt_bind, run_presentContainer h hm hname hfits,
      Store.Account.hasContainer_eq, hblobs, Store.Account.answer_list_of_none hm.available hblobs]
    rfl
  | some blobs =>
    have hpeek : t.peek [container.toUTF8] = some .directory := by
      rw [hm.peek_container, Store.Account.hasContainer_eq, hblobs]
      rfl
    obtain ⟨entries, hdir⟩ := Tree.peek_eq_directory_iff.mp hpeek
    have hlook := h.look hfits (List.cons_ne_nil _ _) (hm.clear_container container.toUTF8)
    rw [hdir] at hlook
    rw [hkept.run_list (containerPath_eq a hname) hlook,
      Store.Account.answer_list_of_some hm.available hblobs, blobNames_eq_keys hm hblobs hdir]

end Reading

end ClaimCheck.Disk
