import Mathlib
import ClaimCheck.Proofs.Disk.Growth

/-!
# What calls on disk need to succeed

A store on disk is rooted where plain names lead to its root from a directory that is there; the root
itself need not be there yet (`Account.Footing`).  Then each call succeeds exactly if its names are
accepted, the file system takes their path, and the right thing stands at its location.

A put that fails has made directories on the way, all or some; the file, once created, is taken away
again (`Machine.Enters.fills_discarded`).
-/

namespace ClaimCheck.Disk

open Store

/-! ## Files that are written -/

namespace Machine.Enters

variable {m : Machine} {start : Path} {base : Location} {names : List Name}

/-- A file that is there is written: it keeps the data, or a part of them if they are too large. -/
lemma exists_write (h : m.Enters start base) (hnames : names ≠ []) (hfits : Fits start names)
    {old : ByteArray} (hfile : m.tree.peek (base ++ names) = some (.file old)) (data : ByteArray) :
    ∃ kept, (m.write (start.append names) data).2 =
        { m with tree := m.tree.insert (base ++ names) (.file kept) } ∧
      ((m.write (start.append names) data).1 = .ok () ↔
        ∀ limit ∈ m.sizeLimit, data.size ≤ limit) ∧
      ((m.write (start.append names) data).1 = .ok () → kept = data) := by
  have hlook := (h.look_eq_ok_iff hnames fun name hname => (hfits.plain name hname).1).mpr
    ⟨hfits, rfl, Tree.peek_eq_file_iff.mp hfile⟩
  unfold write
  rw [hlook]
  dsimp only
  cases m.sizeLimit with
  | none => exact ⟨data, rfl, by simp, fun _ => rfl⟩
  | some limit =>
    dsimp only
    by_cases hsize : data.size ≤ limit
    · rw [if_pos hsize]
      exact ⟨data, rfl, by simp [hsize], fun _ => rfl⟩
    · rw [if_neg hsize]
      exact ⟨data.extract 0 limit, rfl, by simp [hsize], fun hok => by cases hok⟩

/-- A file that was created and written is all that is new. -/
lemma exists_written (h : m.Enters start base) (hnames : names ≠ [])
    (hplain : ∀ name ∈ names, name.IsPlain)
    (hcreate : (m.create (start.append names) (.file ByteArray.empty)).1 = .ok ())
    (data : ByteArray) {m₁ : Machine}
    (hm₁ : (m.create (start.append names) (.file ByteArray.empty)).2 = m₁) :
    ∃ kept, m.Fills (fun location node => location = base ++ names ∧ node = .file kept)
        (m₁.write (start.append names) data).2 ∧
      (m₁.write (start.append names) data).2.tree.peek (base ++ names) = some (.file kept) ∧
      ((m₁.write (start.append names) data).1 = .ok () ↔
        ∀ limit ∈ m.sizeLimit, data.size ≤ limit) ∧
      ((m₁.write (start.append names) data).1 = .ok () → kept = data) := by
  obtain ⟨hfits, hparent, hnone⟩ := (h.create_eq_ok_iff hnames hplain).mp hcreate
  have hnew := h.peek_create hnames hplain hcreate
  have hfills := m.fills_create (start.append names) (Tree.distinct_file ByteArray.empty)
    fun rest => Tree.peek_file_of_ne ByteArray.empty
  rw [hm₁] at hnew hfills
  obtain ⟨kept, hwrite, hiff, hkept⟩ := (h.grow hfills).exists_write hnames hfits hnew data
  have hpeek : ∀ location, (m₁.tree.insert (base ++ names) (.file kept)).peek location =
      if location = base ++ names then some (.file kept) else m₁.tree.peek location := by
    have hlast : base ++ names = base ++ names.dropLast ++ [names.getLast hnames] := by
      rw [List.append_assoc, List.dropLast_concat_getLast]
    rw [hlast] at hnew ⊢
    exact Tree.peek_insert_leaf (hfills.peek_eq_some hparent)
      (fun rest hrest => Tree.peek_append_of_file hnew hrest) fun rest => Tree.peek_file_of_ne kept
  rw [hfills.sizeLimit] at hiff
  refine ⟨kept, hwrite ▸ ⟨hfills.here, hfills.sizeLimit, fun hm => ?_, fun location => ?_⟩, ?_, hiff, hkept⟩
  · exact (hfills.distinct hm).insert (Tree.distinct_file kept) _
  · rw [hpeek]
    split
    · next hlocation =>
      rw [hlocation]
      exact .inr ⟨hnone, _, rfl, rfl, rfl⟩
    · next hlocation =>
      refine .inl ((hfills.peek location).resolve_right ?_)
      rintro ⟨-, node, -, hspot, -⟩
      exact hlocation (hspot.trans (h.spot_append hplain))
  · rw [hwrite, hpeek, if_pos rfl]

/-- A file that was created and written, to its end or not, and removed again leaves no trace. -/
lemma fills_discarded (h : m.Enters start base) (hnames : names ≠ [])
    (hplain : ∀ name ∈ names, name.IsPlain)
    (hcreate : (m.create (start.append names) (.file ByteArray.empty)).1 = .ok ())
    (data : ByteArray) {m₁ m₂ : Machine}
    (hm₁ : (m.create (start.append names) (.file ByteArray.empty)).2 = m₁)
    (hm₂ : (m₁.write (start.append names) data).2 = m₂) :
    m.Fills (fun _ _ => False) (m₂.takeAway (start.append names) againstRemove).2 := by
  obtain ⟨hfits, hparent, hnone⟩ := (h.create_eq_ok_iff hnames hplain).mp hcreate
  obtain ⟨kept, hfills, hfile, -⟩ := h.exists_written hnames hplain hcreate data hm₁
  rw [hm₂] at hfills hfile
  have hlook := ((h.grow hfills).look_eq_ok_iff hnames hplain).mpr
    ⟨hfits, rfl, Tree.peek_eq_file_iff.mp hfile⟩
  have hremove : m₂.takeAway (start.append names) againstRemove =
      (.ok (), { m₂ with tree := m₂.tree.erase (base ++ names) }) := by
    unfold takeAway
    rw [hlook]
    rfl
  have hlast : base ++ names = base ++ names.dropLast ++ [names.getLast hnames] := by
    rw [List.append_assoc, List.dropLast_concat_getLast]
  have hpeek : ∀ location, (m₂.tree.erase (base ++ names)).peek location =
      if location = base ++ names then none else m₂.tree.peek location := by
    rw [hlast] at hfile ⊢
    exact Tree.peek_erase_leaf (hfills.peek_eq_some hparent)
      fun rest hrest => Tree.peek_append_of_file hfile hrest
  rw [hremove]
  refine ⟨hfills.here, hfills.sizeLimit, fun hm => (hfills.distinct hm).erase _, fun location => ?_⟩
  left
  rw [hpeek]
  split
  · next hlocation => rw [hlocation, hnone]
  · next hlocation =>
    refine (hfills.peek location).resolve_right ?_
    rintro ⟨-, node, -, hspot, -⟩
    exact hlocation hspot

end Machine.Enters

/-! ## Requests that succeed -/

namespace Machine

variable {m : Machine} {path : Path}

/-- What is read is what the file holds. -/
lemma read_eq_ok_iff {data : ByteArray} :
    m.read path = .ok data ↔ ∃ location, m.look path = .ok (location, .file data) := by
  unfold read
  rcases m.look path with fault | ⟨location, content | entries⟩
  · simp [Bind.bind, Except.bind]
  · simp [Bind.bind, Except.bind, pure, Except.pure]
  · exact iff_of_false (fun h => by cases h) (by simp)

/-- A file that was read is read alike when file systems grow. -/
lemma Fills.read {made : Location → Node ByteArray → Prop} {m' : Machine} {data : ByteArray}
    (h : m.Fills made m') (hread : m.read path = .ok data) : m'.read path = .ok data := by
  obtain ⟨location, hlook⟩ := read_eq_ok_iff.mp hread
  obtain ⟨hlocate, hget⟩ := look_eq_ok_iff.mp hlook
  have hfile := h.peek_eq_some (Tree.peek_eq_file_iff.mpr hget)
  exact read_eq_ok_iff.mpr
    ⟨location, look_eq_ok_iff.mpr ⟨h.locate hlocate, Tree.peek_eq_file_iff.mp hfile⟩⟩

/-- A path that goes on to somewhere leads to a directory. -/
lemma look_of_locate_append {names : List Name} {location : Location} (hpath : path.names ≠ [])
    (hnames : names ≠ []) (h : m.locate (path.append names) = .ok location) :
    ∃ base entries, m.look path = .ok (base, .directory entries) ∧ m.Enters path base := by
  unfold locate at h
  split at h
  · cases h
  · next hnul =>
    split at h
    · cases h
    · next hsize =>
      obtain ⟨base, hwalk, hdir⟩ := exists_walk_of_append hpath hnames h
      obtain ⟨entries, hentries⟩ := Tree.peek_eq_directory_iff.mp hdir
      have hlocate : m.locate path = .ok base := by
        unfold locate
        rw [Path.hasNul_of_append (Bool.not_eq_true _ ▸ hnul), if_neg Bool.false_ne_true,
          if_neg (Nat.not_lt.mpr ((Path.size_le_append path names).trans (Nat.not_lt.mp hsize)))]
        exact hwalk
      exact ⟨base, entries, Machine.look_eq_ok_iff.mpr ⟨hlocate, hentries⟩, hwalk, hdir⟩

end Machine

/-- An outcome in other words is the same when it is good. -/
lemma mapError_eq_ok_iff {ε ε' α : Type} {words : ε → ε'} {outcome : Except ε α} {a : α} :
    outcome.mapError words = .ok a ↔ outcome = .ok a := by
  cases outcome <;> simp [Except.mapError]

/-! ## Calls -/

/-- The name of the container is accepted, and that of the blob as one that leads through the names. -/
structure Accepted (place : Locator) (names : Location) : Prop where
  container : isEntryName place.container = true
  segments : Account.segments place.name = .ok names

/-- Nothing stands at the location of the names, and no file in the way. -/
structure Machine.Vacant (m : Machine) (base names : Location) : Prop where
  clear : ∀ front content, front <+: names → m.tree.peek (base ++ front) ≠ some (.file content)
  missing : m.tree.peek (base ++ names) = none

/-- Looking for a container changes nothing. -/
lemma run_presentContainer_snd (m : Machine) (a : Account) (container : String) :
    (m.run (a.presentContainer container).run).2 = m := by
  by_cases hname : isEntryName container = true
  · rw [run_presentContainer_accepted m a hname]
  · rw [run_presentContainer_refused m a hname]

/-- A put by names that are not accepted changes nothing. -/
lemma run_put_refused {m : Machine} {a : Account} {place : Locator}
    (h : ¬∃ names, Accepted place names) (data : ByteArray) :
    ∃ fault, m.run (a.put place data).run = (.error fault, m) := by
  unfold Account.put Account.containerPath
  rw [Machine.run_attempt_bind, Machine.run_liftM]
  by_cases hname : isEntryName place.container = true
  · rw [if_pos hname]
    dsimp only
    rw [Machine.run_attempt_bind, Machine.run_liftM]
    cases hsegments : Account.segments place.name with
    | error fault => exact ⟨fault, rfl⟩
    | ok names => exact absurd ⟨names, hname, hsegments⟩ h
  · rw [if_neg hname]
    exact ⟨_, rfl⟩

/-- A put that succeeds makes the directories on the way, creates the file and writes it. -/
lemma exists_of_put_ok {m m' : Machine} {a : Account} {place : Locator} {data : ByteArray}
    (hput : m.run (a.put place data).run = (.ok (), m')) :
    ∃ names m₁ m₂, Accepted place names ∧
      m.run (makeDirectories (a.root.append (place.container.toUTF8 :: names.dropLast))) =
        (.ok (), m₁) ∧
      m₁.create (a.root.append (place.container.toUTF8 :: names)) (.file ByteArray.empty) =
        (.ok (), m₂) ∧
      m₂.write (a.root.append (place.container.toUTF8 :: names)) data = (.ok (), m') := by
  by_cases hplace : ∃ names, Accepted place names
  · obtain ⟨names, hplace⟩ := hplace
    rcases hmake : m.run (makeDirectories (a.root.append
      (place.container.toUTF8 :: names.dropLast))) with ⟨fault | ⟨⟩, m₁⟩
    · rw [run_put_of_not_made hplace.container hplace.segments hmake data] at hput
      cases hput
    · rw [run_put_of_made hplace.container hplace.segments hmake data] at hput
      rcases hcreate : m₁.create (a.root.append (place.container.toUTF8 :: names))
        (.file ByteArray.empty) with ⟨fault | ⟨⟩, m₂⟩
      · rw [hcreate] at hput
        cases hput
      · rw [hcreate] at hput
        dsimp only at hput
        rcases hwrite : m₂.write (a.root.append (place.container.toUTF8 :: names)) data with
          ⟨fault | ⟨⟩, m₃⟩
        · rw [hwrite] at hput
          cases hput
        · rw [hwrite] at hput
          cases hput
          exact ⟨names, m₁, m₂, hplace, hmake, hcreate, hwrite⟩
  · obtain ⟨fault, hrun⟩ := run_put_refused (m := m) (a := a) hplace data
    rw [hrun] at hput
    cases hput

/-- A blob is got when its container is found and its file is read. -/
lemma get_of_read {m : Machine} {a : Account} {place : Locator} {names : List Name}
    {data : ByteArray} (hplace : Accepted place names)
    (hthere : m.isThere (a.root.append [place.container.toUTF8]) = .ok true)
    (hread : m.read (a.root.append (place.container.toUTF8 :: names)) = .ok data) :
    m.run (a.get place).run = (.ok data, m) := by
  have hanswer : ∀ path, Machine.answer (.read path) m = (m.read path, m) := fun _ => rfl
  unfold Account.get
  rw [Machine.run_attempt_bind, run_presentContainer_of_isThere hplace.container hthere, if_pos rfl]
  dsimp only
  rw [Machine.run_attempt_bind, Machine.run_liftM, hplace.segments]
  dsimp only
  rw [Machine.run_wrapping, Machine.run_perform, hanswer, append_container, hread]
  rfl

/-- After a put that succeeds, what was there is still there, and the blob is got with its data. -/
lemma fills_of_put_ok {m m' : Machine} {a : Account} {place : Locator} {data : ByteArray}
    (hput : m.run (a.put place data).run = (.ok (), m')) :
    m.Fills (fun _ _ => True) m' ∧ m'.run (a.get place).run = (.ok data, m') := by
  obtain ⟨names, m₁, m₂, hplace, hmake, hcreate, hwrite⟩ := exists_of_put_ok hput
  have hnames := segments_ne_nil hplace.segments
  have hmade := m.fills_makeDirectories (a.root.append (place.container.toUTF8 :: names.dropLast))
  rw [hmake] at hmade
  -- whatever the root is like, the directory of the blob is entered once it is made
  have hpath : a.root.append (place.container.toUTF8 :: names) =
      (a.root.append (place.container.toUTF8 :: names.dropLast)).append [names.getLast hnames] := by
    rw [Path.append_append, List.cons_append, List.dropLast_concat_getLast]
  rw [hpath] at hcreate hwrite
  obtain ⟨location, hlocate⟩ := Machine.locate_of_create_ok (congrArg Prod.fst hcreate)
  obtain ⟨base, -, -, henters⟩ := Machine.look_of_locate_append (by simp) (by simp) hlocate
  have hplain : ∀ name ∈ [names.getLast hnames], name.IsPlain := by
    rw [List.forall_mem_singleton]
    exact isPlain_of_segments hplace.segments (List.getLast_mem hnames)
  obtain ⟨kept, hfills, hfile, -, hkept⟩ := henters.exists_written (by simp) hplain
    (congrArg Prod.fst hcreate) data (congrArg Prod.snd hcreate)
  rw [hwrite] at hfills hfile hkept
  obtain rfl := hkept rfl
  refine ⟨(hmade.mono fun _ _ _ => trivial).trans (hfills.mono fun _ _ _ => trivial),
    get_of_read hplace ?_ ?_⟩
  · -- the way to the blob leads through its container
    have hblob := hfills.locate hlocate
    rw [← hpath, ← append_container] at hblob
    obtain ⟨found, entries, hlook, -⟩ := Machine.look_of_locate_append (by simp) hnames hblob
    exact Machine.isThere_eq_true_iff.mpr ⟨found, _, hlook⟩
  · rw [hpath, Machine.read_eq_ok_iff]
    have hfits := ((henters.create_eq_ok_iff (by simp) hplain).mp (congrArg Prod.fst hcreate)).1
    exact ⟨_, ((henters.grow hfills).look_eq_ok_iff (by simp) hplain).mpr
      ⟨hfits, rfl, Tree.peek_eq_file_iff.mp hfile⟩⟩

namespace Account

/-- The root of a store goes on by plain names from a path that leads to a directory. -/
structure Footing (a : Account) (m : Machine) (start : Path) (base way : Location) : Prop where
  root : a.root = start.append way
  plain : ∀ name ∈ way, name.IsPlain
  enters : m.Enters start base

namespace Footing

variable {a : Account} {m m' : Machine} {start : Path} {base way names : Location} {place : Locator}
  {container : String} {data : ByteArray}

/-- Paths below the root go on from the directory that is there. -/
lemma append (h : a.Footing m start base way) (names : List Name) :
    a.root.append names = start.append (way ++ names) := by
  rw [h.root, Path.append_append]

/-- The name of a container leads to an entry. -/
lemma plain_container (h : a.Footing m start base way) (hname : isEntryName container = true) :
    ∀ name ∈ way ++ [container.toUTF8], name.IsPlain := by
  intro name hmem
  rcases List.mem_append.mp hmem with hway | hmem
  · exact h.plain name hway
  · rw [List.mem_singleton.mp hmem]
    exact Name.isPlain_toUTF8 hname

/-- The names of a blob lead to entries. -/
lemma plain_place (h : a.Footing m start base way) (hplace : Accepted place names) :
    ∀ name ∈ way ++ place.container.toUTF8 :: names, name.IsPlain := by
  intro name hmem
  rw [List.append_cons, List.mem_append] at hmem
  exact hmem.elim (h.plain_container hplace.container name)
    (isPlain_of_segments hplace.segments)

/-- What the path of a container leads to. -/
lemma look_container_iff (h : a.Footing m start base way) (hname : isEntryName container = true)
    {location : Location} {t : Tree ByteArray} :
    m.look (a.root.append [container.toUTF8]) = .ok (location, t) ↔
      Fits start (way ++ [container.toUTF8]) ∧ location = base ++ (way ++ [container.toUTF8]) ∧
        m.tree.get? (base ++ (way ++ [container.toUTF8])) = some t := by
  rw [h.append]
  exact h.enters.look_eq_ok_iff (by simp) (h.plain_container hname)

/-- What the path of a blob leads to. -/
lemma look_place_iff (h : a.Footing m start base way) (hplace : Accepted place names)
    {location : Location} {t : Tree ByteArray} :
    m.look (a.root.append (place.container.toUTF8 :: names)) = .ok (location, t) ↔
      Fits start (way ++ place.container.toUTF8 :: names) ∧
        location = base ++ (way ++ place.container.toUTF8 :: names) ∧
        m.tree.get? (base ++ (way ++ place.container.toUTF8 :: names)) = some t := by
  rw [h.append]
  exact h.enters.look_eq_ok_iff (by simp) (h.plain_place hplace)

/-- A container is found exactly if something stands there. -/
lemma presentContainer_eq_ok_iff (h : a.Footing m start base way) {path : Path} :
    (m.run (a.presentContainer container).run).1 = .ok path ↔
      isEntryName container = true ∧ path = a.root.append [container.toUTF8] ∧
        Fits start (way ++ [container.toUTF8]) ∧
        m.tree.peek (base ++ (way ++ [container.toUTF8])) ≠ none := by
  by_cases hname : isEntryName container = true
  · have hthere : m.isThere (a.root.append [container.toUTF8]) = .ok true ↔
        Fits start (way ++ [container.toUTF8]) ∧
          m.tree.peek (base ++ (way ++ [container.toUTF8])) ≠ none := by
      rw [Machine.isThere_eq_true_iff, Ne, Tree.peek_eq_none_iff]
      constructor
      · rintro ⟨location, t, hlook⟩
        obtain ⟨hfits, -, hget⟩ := (h.look_container_iff hname).mp hlook
        exact ⟨hfits, by rw [hget]; exact Option.some_ne_none t⟩
      · rintro ⟨hfits, hsome⟩
        obtain ⟨t, hget⟩ := Option.ne_none_iff_exists'.mp hsome
        exact ⟨_, t, (h.look_container_iff hname).mpr ⟨hfits, rfl, hget⟩⟩
    rw [run_presentContainer_accepted m a hname, and_iff_right hname, ← hthere]
    rcases m.isThere (a.root.append [container.toUTF8]) with fault | there | there <;>
      simp [eq_comm]
  · rw [run_presentContainer_refused m a hname]
    exact iff_of_false (fun hok => by cases hok) fun hok => hname hok.1

/-- A file is read exactly if it is there. -/
lemma read_eq_ok_iff (h : a.Footing m start base way) (hplace : Accepted place names) :
    m.read (a.root.append (place.container.toUTF8 :: names)) = .ok data ↔
      Fits start (way ++ place.container.toUTF8 :: names) ∧
      m.tree.peek (base ++ (way ++ place.container.toUTF8 :: names)) = some (.file data) := by
  rw [Machine.read_eq_ok_iff, Tree.peek_eq_file_iff]
  constructor
  · rintro ⟨location, hlook⟩
    obtain ⟨hfits, -, hget⟩ := (h.look_place_iff hplace).mp hlook
    exact ⟨hfits, hget⟩
  · rintro ⟨hfits, hget⟩
    exact ⟨_, (h.look_place_iff hplace).mpr ⟨hfits, rfl, hget⟩⟩

/-- A blob is read exactly if its file is there. -/
lemma get_eq_ok_iff (h : a.Footing m start base way) :
    (m.run (a.get place).run).1 = .ok data ↔ ∃ names, Accepted place names ∧
      Fits start (way ++ place.container.toUTF8 :: names) ∧
      m.tree.peek (base ++ (way ++ place.container.toUTF8 :: names)) = some (.file data) := by
  have hanswer : ∀ path, Machine.answer (.read path) m = (m.read path, m) := fun _ => rfl
  unfold Account.get
  rw [Machine.run_attempt_bind_eq_ok_iff, run_presentContainer_snd]
  constructor
  · rintro ⟨path, hpath, hok⟩
    obtain ⟨hname, rfl, -⟩ := h.presentContainer_eq_ok_iff.mp hpath
    obtain ⟨names, hsegments, hok⟩ := Machine.run_attempt_bind_eq_ok_iff.mp hok
    rw [Machine.run_liftM] at hsegments hok
    rw [Machine.run_wrapping, Machine.run_perform, hanswer, append_container,
      mapError_eq_ok_iff] at hok
    exact ⟨names, ⟨hname, hsegments⟩, (h.read_eq_ok_iff ⟨hname, hsegments⟩).mp hok⟩
  · rintro ⟨names, hplace, hfits, hfile⟩
    refine ⟨_, h.presentContainer_eq_ok_iff.mpr ⟨hplace.container, rfl, ?_, ?_⟩,
      Machine.run_attempt_bind_eq_ok_iff.mpr ⟨names, hplace.segments, ?_⟩⟩
    · rw [List.append_cons] at hfits
      exact hfits.left
    · rw [List.append_cons, ← List.append_assoc] at hfile
      rw [Tree.peek_of_append (segments_ne_nil hplace.segments)
        (by rw [hfile]; exact Option.some_ne_none _)]
      exact Option.some_ne_none _
    · rw [Machine.run_liftM, Machine.run_wrapping, Machine.run_perform, hanswer, append_container,
        mapError_eq_ok_iff]
      exact (h.read_eq_ok_iff hplace).mpr ⟨hfits, hfile⟩

/-- A container is listed exactly if its directory is there and the file system takes the paths of all
directories below it. -/
lemma list_eq_ok_iff (h : a.Footing m start base way) (hdistinct : m.tree.Distinct)
    {listed : List String} :
    (m.run (a.list container).run).1 = .ok listed ↔ isEntryName container = true ∧
      Fits start (way ++ [container.toUTF8]) ∧ ∃ entries,
        m.tree.get? (base ++ (way ++ [container.toUTF8])) = some (.directory entries) ∧
          (∀ dir, m.tree.peek (base ++ (way ++ [container.toUTF8]) ++ dir) = some .directory →
            Fits start (way ++ [container.toUTF8] ++ dir)) ∧
          listed = (Tree.directory entries).blobNames := by
  -- what a container that is there needs to be listed
  have hiff : isEntryName container = true → Fits start (way ++ [container.toUTF8]) →
      ∀ entries, m.tree.get? (base ++ (way ++ [container.toUTF8])) = some (.directory entries) →
      ((m.run (a.list container).run).1 = .ok listed ↔
        (∀ dir, m.tree.peek (base ++ (way ++ [container.toUTF8]) ++ dir) = some .directory →
          Fits start (way ++ [container.toUTF8] ++ dir)) ∧
          listed = (Tree.directory entries).blobNames) := by
    intro hname hfits entries hget
    have hlook := (h.look_container_iff hname).mpr ⟨hfits, rfl, hget⟩
    rw [list_eq_ok_iff_of_look (containerPath_eq a hname) hlook (hdistinct.part hget)]
    refine and_congr_left' (forall_congr' fun dir => ?_)
    rw [Tree.mem_directories_iff (hdistinct.part hget), Tree.peek_eq_directory_iff,
      Tree.get?_append, hget, Option.bind_some, h.append]
    exact forall_congr' fun _ => ⟨hfits.append, Fits.right⟩
  constructor
  · intro hlist
    obtain ⟨path, location, entries, hpath, hlook⟩ := exists_look_of_list hlist
    have hname : isEntryName container = true := by
      by_contra hname
      unfold Account.containerPath at hpath
      rw [if_neg hname] at hpath
      cases hpath
    rw [containerPath_eq a hname] at hpath
    cases hpath
    obtain ⟨hfits, rfl, hget⟩ := (h.look_container_iff hname).mp hlook
    exact ⟨hname, hfits, entries, hget, (hiff hname hfits entries hget).mp hlist⟩
  · rintro ⟨hname, hfits, entries, hget, hbelow⟩
    exact (hiff hname hfits entries hget).mpr hbelow

/-- The directory of a blob, and the blob in it. -/
lemma dropLast_place (hplace : Accepted place names) (way : Location) :
    (way ++ place.container.toUTF8 :: names).dropLast =
      way ++ place.container.toUTF8 :: names.dropLast := by
  rw [List.dropLast_append_of_ne_nil (List.cons_ne_nil _ _),
    List.dropLast_cons_of_ne_nil (segments_ne_nil hplace.segments)]

/-- The names of the directory of a blob lead to entries. -/
lemma plain_directory (h : a.Footing m start base way) (hplace : Accepted place names) :
    ∀ name ∈ way ++ place.container.toUTF8 :: names.dropLast, name.IsPlain := by
  intro name hname
  rw [← dropLast_place hplace] at hname
  exact h.plain_place hplace name (List.mem_of_mem_dropLast hname)

/-- Making the directory of a blob fills locations on the way to it with directories. -/
lemma fills_makeDirectories (h : a.Footing m start base way) (hplace : Accepted place names) :
    m.Fills (fun location node => node = .directory ∧ ∃ front ≠ [],
      front <+: way ++ place.container.toUTF8 :: names.dropLast ∧ location = base ++ front ∧
        Fits start front)
      (m.run (makeDirectories (a.root.append (place.container.toUTF8 :: names.dropLast)))).2 := by
  rw [h.append]
  exact h.enters.fills_makeDirectories (h.plain_directory hplace)

/-- Once its directory is made, the place of a blob is as it was. -/
lemma peek_place_of_made (h : a.Footing m start base way) (hplace : Accepted place names) :
    (m.run (makeDirectories (a.root.append (place.container.toUTF8 :: names.dropLast)))).2.tree.peek
        (base ++ (way ++ place.container.toUTF8 :: names)) =
      m.tree.peek (base ++ (way ++ place.container.toUTF8 :: names)) := by
  refine ((h.fills_makeDirectories hplace).peek _).resolve_right ?_
  rintro ⟨-, node, -, -, front, -, hfront, heq, -⟩
  rw [← List.append_cancel_left heq, ← dropLast_place hplace] at hfront
  have hlength := hfront.length_le
  rw [List.length_dropLast, List.length_append, List.length_cons] at hlength
  omega

/-- A blob that is put had a place that was vacant, and its data are not too large. -/
lemma vacant_of_put_ok (h : a.Footing m start base way)
    (hput : (m.run (a.put place data).run).1 = .ok ()) :
    ∃ names, Accepted place names ∧ Fits start (way ++ place.container.toUTF8 :: names) ∧
      m.Vacant base (way ++ place.container.toUTF8 :: names) ∧
      ∀ limit ∈ m.sizeLimit, data.size ≤ limit := by
  obtain ⟨names, m₁, m₂, hplace, hmake, hcreate, hwrite⟩ := exists_of_put_ok (Prod.ext hput rfl)
  have hplain := h.plain_place hplace
  have hfills := h.fills_makeDirectories hplace
  rw [hmake] at hfills
  rw [h.append] at hcreate hwrite
  have h₁ := h.enters.grow hfills
  have hcreated := congrArg Prod.fst hcreate
  obtain ⟨hfits, hparent, hnone⟩ := (h₁.create_eq_ok_iff (by simp) hplain).mp hcreated
  obtain ⟨kept, -, -, hlimit, -⟩ :=
    h₁.exists_written (by simp) hplain hcreated data (congrArg Prod.snd hcreate)
  rw [← hfills.sizeLimit]
  refine ⟨names, hplace, hfits, ⟨fun front content hfront hfile => ?_, hfills.peek_eq_none hnone⟩,
    hlimit.mp (congrArg Prod.fst hwrite)⟩
  -- a file in the way would still be there
  have hfile₁ := hfills.peek_eq_some hfile
  rcases eq_or_ne front (way ++ place.container.toUTF8 :: names) with rfl | hne
  · rw [hnone] at hfile₁
    cases hfile₁
  · rw [← List.dropLast_concat_getLast (l := way ++ place.container.toUTF8 :: names)
      (by simp)] at hfront hne
    rw [Tree.peek_of_prefix hparent
      ((List.prefix_concat_iff.mp hfront).resolve_left hne)] at hfile₁
    cases hfile₁

/-- A blob is put where its place is vacant and its data are not too large. -/
lemma put_ok_of_vacant (h : a.Footing m start base way) (hplace : Accepted place names)
    (hfits : Fits start (way ++ place.container.toUTF8 :: names))
    (hvacant : m.Vacant base (way ++ place.container.toUTF8 :: names))
    (hlimit : ∀ limit ∈ m.sizeLimit, data.size ≤ limit) :
    (m.run (a.put place data).run).1 = .ok () := by
  have hfrom : way ++ place.container.toUTF8 :: names.dropLast <+:
      way ++ place.container.toUTF8 :: names := by
    rw [← dropLast_place hplace]
    exact List.dropLast_prefix _
  have hfits' : Fits start (way ++ place.container.toUTF8 :: names.dropLast) := by
    obtain ⟨rest, hrest⟩ := hfrom
    rw [← hrest] at hfits
    exact hfits.left
  obtain ⟨hmade, hparent⟩ := h.enters.run_makeDirectories_of_clear (by simp) hfits'
    fun front content hfront => hvacant.clear front content (hfront.trans hfrom)
  have hfills := h.fills_makeDirectories hplace
  have hpeek := h.peek_place_of_made hplace
  rw [← h.append] at hmade hparent
  rcases hmake : m.run (makeDirectories (a.root.append
    (place.container.toUTF8 :: names.dropLast))) with ⟨outcome, m₁⟩
  rw [hmake] at hmade hparent hfills hpeek
  cases hmade
  have h₁ := h.enters.grow hfills
  have hcreated : (m₁.create (start.append (way ++ place.container.toUTF8 :: names))
      (.file ByteArray.empty)).1 = .ok () :=
    (h₁.create_eq_ok_iff (by simp) (h.plain_place hplace)).mpr
      ⟨hfits, by rwa [dropLast_place hplace], hpeek.trans hvacant.missing⟩
  obtain ⟨kept, -, -, hwritten, -⟩ :=
    h₁.exists_written (by simp) (h.plain_place hplace) hcreated data rfl
  rw [hfills.sizeLimit] at hwritten
  have hwrite := hwritten.mpr hlimit
  rw [run_put_of_made hplace.container hplace.segments hmake data, h.append]
  rcases hcreate : m₁.create (start.append (way ++ place.container.toUTF8 :: names))
    (.file ByteArray.empty) with ⟨outcome, m₂⟩
  rw [hcreate] at hcreated hwrite
  cases hcreated
  dsimp only at hwrite ⊢
  rcases hlast : m₂.write (start.append (way ++ place.container.toUTF8 :: names)) data with
    ⟨outcome, m₃⟩
  rw [hlast] at hwrite
  cases hwrite
  rfl

/-- A put that fails leaves what making the directory of the blob has left. -/
lemma fills_of_put_error (h : a.Footing m start base way) (hplace : Accepted place names)
    {fault : Store.Fault} (hput : m.run (a.put place data).run = (.error fault, m')) :
    (m.run (makeDirectories (a.root.append (place.container.toUTF8 :: names.dropLast)))).2.Fills
      (fun _ _ => False) m' := by
  have hfills := h.fills_makeDirectories hplace
  rcases hmake : m.run (makeDirectories (a.root.append
    (place.container.toUTF8 :: names.dropLast))) with ⟨outcome | ⟨⟩, m₁⟩
  · rw [run_put_of_not_made hplace.container hplace.segments hmake data] at hput
    cases hput
    exact .refl _ _
  · rw [hmake] at hfills
    rw [run_put_of_made hplace.container hplace.segments hmake data, h.append] at hput
    have h₁ := h.enters.grow hfills
    rcases hcreate : m₁.create (start.append (way ++ place.container.toUTF8 :: names))
      (.file ByteArray.empty) with ⟨refused | ⟨⟩, m₂⟩
    · have hsame := Machine.create_of_error (congrArg Prod.fst hcreate)
      rw [hcreate] at hput hsame
      cases hput
      cases hsame
      exact .refl _ _
    · rw [hcreate] at hput
      dsimp only at hput
      rcases hwrite : m₂.write (start.append (way ++ place.container.toUTF8 :: names)) data with
        ⟨refused | ⟨⟩, m₃⟩
      · rw [hwrite] at hput
        cases hput
        exact h₁.fills_discarded (by simp) (h.plain_place hplace) (congrArg Prod.fst hcreate) data
          (congrArg Prod.snd hcreate) (congrArg Prod.snd hwrite)
      · rw [hwrite] at hput
        cases hput

end Footing

/-- The root of a store goes on by plain names from some path that leads to a directory. -/
def IsRooted (a : Account) (m : Machine) : Prop := ∃ start base way, a.Footing m start base way

end Account

/-! ## After any calls -/

/-- The names of the root lead to entries, and a directory is where its path starts. -/
structure Account.Stands (a : Account) (m : Machine) : Prop where
  plain : ∀ name ∈ a.root.names, name.IsPlain
  origin : m.tree.peek (m.origin a.root) = some .directory
  distinct : m.tree.Distinct

namespace Account.Stands

variable {a : Account} {m : Machine}

/-- A store that stands is rooted. -/
lemma isRooted (h : a.Stands m) : a.IsRooted m :=
  ⟨⟨a.root.isAbsolute, []⟩, m.origin a.root, a.root.names, rfl, h.plain, rfl, h.origin⟩

/-- A store stands when file systems grow. -/
lemma grow {made : Location → Node ByteArray → Prop} {m' : Machine} (h : a.Stands m)
    (hfills : m.Fills made m') : a.Stands m' where
  plain := h.plain
  origin := by
    rw [hfills.origin]
    exact hfills.peek_eq_some h.origin
  distinct := hfills.distinct h.distinct

/-- A store stands when something below its root is taken away. -/
lemma takeAway (h : a.Stands m) {path : Path} (hpath : a.root.IsBelow path)
    (against : Tree ByteArray → Option Fault) (hhere : (m.takeAway path against).2.here = m.here) :
    a.Stands (m.takeAway path against).2 where
  plain := h.plain
  origin := by
    obtain ⟨names, hnames, hplain, rfl⟩ := hpath
    have horigin : (m.takeAway (a.root.append names) against).2.origin a.root =
        m.origin a.root := by
      unfold Machine.origin
      rw [hhere]
    rw [horigin]
    rcases m.peek_takeAway (a.root.append names) against (m.origin a.root) with hsame | ⟨hbelow, -⟩
    · rw [hsame, h.origin]
    · have hspot : m.spot a.root = m.origin a.root ++ a.root.names :=
        Machine.follow_of_plain _ h.plain
      rw [m.spot_append a.root hplain, hspot, List.append_assoc] at hbelow
      have hlength := hbelow.length_le
      rw [List.length_append, List.length_append] at hlength
      have hpositive := List.length_pos_iff.mpr hnames
      omega
  distinct := by
    unfold Machine.takeAway
    split
    · exact h.distinct
    · split
      · exact h.distinct
      · exact h.distinct.erase _

/-- A store stands when a file is written. -/
lemma write (h : a.Stands m) (path : Path) (data : ByteArray)
    (hhere : (m.write path data).2.here = m.here) : a.Stands (m.write path data).2 where
  plain := h.plain
  origin := by
    have horigin : (m.write path data).2.origin a.root = m.origin a.root := by
      unfold Machine.origin
      rw [hhere]
    rw [horigin]
    rcases m.peek_write path data (m.origin a.root) with hsame | ⟨-, ⟨old, hfile⟩, -⟩
    · rw [hsame, h.origin]
    · rw [h.origin] at hfile
      cases hfile
  distinct := by
    unfold Machine.write
    split
    · exact h.distinct
    · exact h.distinct
    · split
      · exact h.distinct.insert (Tree.distinct_file _) _
      · split
        · exact h.distinct.insert (Tree.distinct_file _) _
        · exact h.distinct.insert (Tree.distinct_file _) _

/-- A store stands whatever it asks. -/
lemma answer (h : a.Stands m) {r : Request} (hr : r.StaysBelow a.root) :
    a.Stands (Machine.answer r m).2 := by
  have hhere := Machine.here_answer r m
  cases r with
  | makeDirectory path =>
    exact h.grow (m.fills_create path Tree.distinct_empty fun rest => Tree.peek_empty_of_ne)
  | createNew path =>
    exact h.grow (m.fills_create path (Tree.distinct_file _) fun rest => Tree.peek_file_of_ne _)
  | write path data => exact h.write path data hhere
  | remove path => exact h.takeAway hr _ hhere
  | removeDirectory path => exact h.takeAway hr _ hhere
  | removeTree path => exact h.takeAway hr _ hhere
  | _ => exact h

/-- A store stands whatever calls were made. -/
lemma answerAll (h : a.Stands m) (calls : List Call) : a.Stands (a.answerAll m calls).2 := by
  induction calls generalizing m with
  | nil => exact h
  | cons call calls ih =>
    exact ih ((a.asksOnly_perform call).keeps (fun r m hr hm => hm.answer hr) h)

end Account.Stands

end ClaimCheck.Disk
