import Mathlib
import ClaimCheck.Proofs.Disk.Refinement
import ClaimCheck.Proofs.Disk.Spots

/-!
# File systems that grow

While directories and files are made, all that was there stays: one state of a file system fills
another when what is new stands where nothing was (`Machine.Fills`).  A path that led somewhere leads
there still (`Machine.Fills.locate`).

Below a directory that a path enters (`Machine.Enters`), what plain names lead to is read off the
tree alone.  Making a directory there with those above it starts at the first one that is missing
(`Machine.Lacks`), and goes on as far as the names are not too long
(`Machine.Enters.run_makeDirectories_of_lacks`).
-/

namespace ClaimCheck.Disk

namespace Machine

variable {made made' : Location → Node ByteArray → Prop} {m m' m'' : Machine}
  {start path : Path} {dir base location : Location} {name : Name} {front names rest : List Name}
  {node : Node ByteArray} {t : Tree ByteArray}

/-! ## Filling -/

/-- All that was there is still there, and what is new stands where nothing was. -/
structure Fills (made : Location → Node ByteArray → Prop) (m m' : Machine) : Prop where
  here : m'.here = m.here
  sizeLimit : m'.sizeLimit = m.sizeLimit
  distinct : m.tree.Distinct → m'.tree.Distinct
  peek : ∀ location, m'.tree.peek location = m.tree.peek location ∨
    m.tree.peek location = none ∧ ∃ node, m'.tree.peek location = some node ∧ made location node

namespace Fills

/-- Nothing new is there at first. -/
lemma refl (made : Location → Node ByteArray → Prop) (m : Machine) : m.Fills made m :=
  ⟨rfl, rfl, id, fun _ => .inl rfl⟩

/-- What is new may be told more loosely. -/
lemma mono (h : m.Fills made m')
    (hmade : ∀ location node, made location node → made' location node) : m.Fills made' m' where
  here := h.here
  sizeLimit := h.sizeLimit
  distinct := h.distinct
  peek location := (h.peek location).imp_right fun ⟨hnone, node, hnode, hnew⟩ =>
    ⟨hnone, node, hnode, hmade location node hnew⟩

/-- What was seen is still seen. -/
lemma peek_eq_some (h : m.Fills made m') (hpeek : m.tree.peek location = some node) :
    m'.tree.peek location = some node := by
  rcases h.peek location with hsame | ⟨hnone, -⟩
  · rw [hsame, hpeek]
  · rw [hpeek] at hnone
    cases hnone

/-- Where nothing is seen, nothing was. -/
lemma peek_eq_none (h : m.Fills made m') (hpeek : m'.tree.peek location = none) :
    m.tree.peek location = none := by
  cases hbefore : m.tree.peek location with
  | none => rfl
  | some node =>
    rw [h.peek_eq_some hbefore] at hpeek
    cases hpeek

/-- Filling goes on. -/
lemma trans (h : m.Fills made m') (h' : m'.Fills made m'') : m.Fills made m'' where
  here := h'.here.trans h.here
  sizeLimit := h'.sizeLimit.trans h.sizeLimit
  distinct := h'.distinct ∘ h.distinct
  peek location := by
    rcases h'.peek location with hsame | ⟨hnone, hnew⟩
    · rw [hsame]
      exact h.peek location
    · exact .inr ⟨h.peek_eq_none hnone, hnew⟩

/-- Relative paths start where they did. -/
lemma origin (h : m.Fills made m') (path : Path) : m'.origin path = m.origin path := by
  unfold Machine.origin
  rw [h.here]

/-- A walk that led somewhere leads there still. -/
lemma walk (h : m.Fills made m') (hwalk : m.walk dir names = .ok location) :
    m'.walk dir names = .ok location := by
  induction names generalizing dir with
  | nil => exact hwalk
  | cons name names ih =>
    rcases eq_or_ne names [] with rfl | hne
    · exact hwalk
    · rw [walk_cons _ _ _ hne] at hwalk ⊢
      cases henter : m.enter dir name with
      | error fault =>
        rw [henter] at hwalk
        cases hwalk
      | ok next =>
        rw [henter] at hwalk
        obtain ⟨htoward, hnext⟩ := enter_eq_ok_iff.mp henter
        have henter' : m'.enter dir name = .ok next :=
          enter_eq_ok_iff.mpr ⟨htoward, h.peek_eq_some hnext⟩
        rw [henter']
        exact ih hwalk

/-- A path that led somewhere leads there still. -/
lemma locate (h : m.Fills made m') (hlocate : m.locate path = .ok location) :
    m'.locate path = .ok location := by
  unfold Machine.locate at hlocate ⊢
  rw [h.here]
  split at hlocate
  · cases hlocate
  · next hnul =>
    split at hlocate
    · cases hlocate
    · next hsize =>
      rw [if_neg hnul, if_neg hsize]
      exact h.walk hlocate

end Fills

/-- A creation leaves the file system as it is or places a tree in it. -/
lemma create_snd (m : Machine) (path : Path) (t : Tree ByteArray) :
    (m.create path t).2 = m ∨
      ∃ location, (m.create path t).2 = { m with tree := m.tree.insert location t } := by
  unfold create
  split
  · exact .inl rfl
  · next location _ =>
    split
    · exact .inl rfl
    · exact .inr ⟨location, rfl⟩

/-- A creation that is refused changes nothing. -/
lemma create_of_error {fault : Fault} (h : (m.create path t).1 = .error fault) :
    (m.create path t).2 = m := by
  unfold create at h ⊢
  split at h
  · rfl
  · split at h
    · rfl
    · cases h

/-- What is created is created somewhere. -/
lemma locate_of_create_ok (h : (m.create path t).1 = .ok ()) :
    ∃ location, m.locate path = .ok location := by
  unfold create at h
  cases hlocate : m.locate path with
  | error fault =>
    rw [hlocate] at h
    cases h
  | ok location => exact ⟨location, rfl⟩

/-- A path that leads somewhere is taken. -/
lemma isTaken_of_locate (h : m.locate path = .ok location) : IsTaken (.ok path) := sizes_of_locate h

/-- A creation fills the location of its path, which is taken. -/
lemma fills_create (m : Machine) (path : Path) (hdistinct : t.Distinct)
    (hleaf : ∀ rest ≠ [], t.peek rest = none) :
    m.Fills (fun location node => location = m.spot path ∧ node = t.node ∧ IsTaken (.ok path))
      (m.create path t).2 where
  here := by rcases m.create_snd path t with h | ⟨location, h⟩ <;> rw [h]
  sizeLimit := by rcases m.create_snd path t with h | ⟨location, h⟩ <;> rw [h]
  distinct hm := by
    rcases m.create_snd path t with h | ⟨location, h⟩
    · rwa [h]
    · rw [h]
      exact hm.insert hdistinct location
  peek location := by
    rcases hcreate : (m.create path t).1 with fault | ⟨⟩
    · rw [create_of_error hcreate]
      exact .inl rfl
    · obtain ⟨target, htarget⟩ := locate_of_create_ok hcreate
      exact (m.peek_create path hleaf location).imp_right fun ⟨hspot, hnone, hmade⟩ =>
        ⟨hnone, t.node, hmade, hspot, rfl, isTaken_of_locate htarget⟩

/-- Making a directory with those above it fills locations on the way with directories, by paths that
are taken. -/
lemma fills_makeDirectories (m : Machine) (path : Path) :
    m.Fills (fun location node => node = .directory ∧ ∃ front ≠ [], front <+: path.names ∧
      location = m.spot ⟨path.isAbsolute, front⟩ ∧ IsTaken (.ok ⟨path.isAbsolute, front⟩))
      (m.run (makeDirectories path)).2 := by
  have hasks : Program.AsksOnly (fun r : Request => ∃ front ≠ [], front <+: path.names ∧
      (r = .makeDirectory ⟨path.isAbsolute, front⟩ ∨ r = .isDirectory ⟨path.isAbsolute, front⟩))
      (makeDirectories path) :=
    asksOnly_makeUpTo fun front hfront hstart =>
      ⟨⟨front, hfront, hstart, .inl rfl⟩, front, hfront, hstart, .inr rfl⟩
  refine hasks.keeps (fun r s hr hs => ?_) (.refl _ m)
  obtain ⟨front, hfront, hstart, rfl | rfl⟩ := hr
  · refine hs.trans ((s.fills_create _ Tree.distinct_empty fun rest => Tree.peek_empty_of_ne).mono ?_)
    rintro location node ⟨rfl, rfl, htaken⟩
    exact ⟨rfl, front, hfront, hstart, spot_of_here hs.here _, htaken⟩
  · exact hs

/-! ## Below a directory -/

/-- The names lead to nothing from some name on: up to it there are directories, and its path is
taken. -/
structure Lacks (m : Machine) (start : Path) (base : Location) (front : List Name) (name : Name) :
    Prop where
  fits : Fits start (front ++ [name])
  parent : m.tree.peek (base ++ front) = some .directory
  missing : m.tree.peek (base ++ (front ++ [name])) = none

/-- A name is not found exactly if it leads to nothing. -/
lemma enter_eq_notFound_iff : m.enter dir name = .error .notFound ↔
    ∃ location, toward dir name = .ok location ∧ m.tree.peek location = none := by
  unfold enter
  cases htoward : toward dir name with
  | error fault =>
    refine iff_of_false (fun h => ?_) (by simp)
    simp only [bind, Except.bind, Except.error.injEq] at h
    subst h
    unfold toward at htoward
    split at htoward
    · cases htoward
    split at htoward
    · cases htoward
    split at htoward <;> cases htoward
  | ok location =>
    simp only [bind, Except.bind, Except.ok.injEq, exists_eq_left', Tree.peek_eq_none_iff]
    cases hget : m.tree.get? location with
    | none => exact iff_of_true rfl rfl
    | some child =>
      cases child with
      | file content => exact iff_of_false (fun h => by cases h) (by simp)
      | directory entries => exact iff_of_false (fun h => by cases h) (by simp)

/-- A walk of plain names that is not found stops at the first name that leads to nothing. -/
lemma exists_missing_of_walk (hplain : ∀ name ∈ names, name.IsPlain)
    (hdir : m.tree.peek dir = some .directory) (h : m.walk dir names = .error .notFound) :
    ∃ front name rest, names = front ++ name :: rest ∧
      (∀ other ∈ front ++ [name], other.size ≤ longestName) ∧
      m.tree.peek (dir ++ front) = some .directory ∧
      m.tree.peek (dir ++ (front ++ [name])) = none := by
  induction names generalizing dir with
  | nil => cases h
  | cons name names ih =>
    obtain ⟨hname, hplain⟩ := List.forall_mem_cons.mp hplain
    -- alone, the name is not looked for
    have hlast : names ≠ [] := by
      rintro rfl
      change toward dir name = _ at h
      unfold toward at h
      rw [if_neg hname.1, if_neg hname.2] at h
      split at h <;> cases h
    rw [walk_cons m dir name hlast] at h
    cases henter : m.enter dir name with
    | error fault =>
      rw [henter] at h
      cases h
      obtain ⟨location, htoward, hnone⟩ := enter_eq_notFound_iff.mp henter
      obtain rfl := eq_of_toward hname htoward
      exact ⟨[], name, names, rfl, List.forall_mem_singleton.mpr (size_le_of_toward htoward),
        by rwa [List.append_nil], hnone⟩
    | ok next =>
      rw [henter] at h
      obtain ⟨htoward, hnext⟩ := enter_eq_ok_iff.mp henter
      obtain rfl := eq_of_toward hname htoward
      obtain ⟨front, other, rest, rfl, hsizes, hfront, hnone⟩ := ih hplain hnext h
      refine ⟨name :: front, other, rest, rfl,
        List.forall_mem_cons.mpr ⟨size_le_of_toward htoward, hsizes⟩, ?_, ?_⟩
      · rwa [List.append_cons]
      · rwa [List.cons_append, List.append_cons]

namespace Lacks

/-- All the names are plain when those behind the missing one are. -/
lemma isPlain (h : m.Lacks start base front name) (hrest : ∀ other ∈ rest, other.IsPlain) :
    ∀ other ∈ front ++ name :: rest, other.IsPlain := by
  intro other hother
  rw [List.append_cons, List.mem_append] at hother
  exact hother.elim (fun hother => (h.fits.plain other hother).1) (hrest other)

/-- All the names fit when those behind the missing one are plain and not too long. -/
lemma fits_append (h : m.Lacks start base front name) (hplain : ∀ other ∈ rest, other.IsPlain)
    (hsizes : ∀ other ∈ rest, other.size ≤ longestName)
    (hnul : (start.append (front ++ name :: rest)).hasNul = false)
    (hshort : (start.append (front ++ name :: rest)).size ≤ longestPath) :
    Fits start (front ++ name :: rest) := by
  refine ⟨fun other hother => ⟨h.isPlain hplain other hother, ?_⟩, hnul, hshort⟩
  rw [List.append_cons, List.mem_append] at hother
  exact hother.elim (fun hother => (h.fits.plain other hother).2) (hsizes other)

/-- Nothing stands behind the missing name. -/
lemma peek_append (h : m.Lacks start base front name) (rest : List Name) :
    m.tree.peek (base ++ (front ++ name :: rest)) = none := by
  have hbehind := Tree.peek_append_of_none h.missing rest
  rwa [List.append_assoc, List.append_assoc, List.singleton_append] at hbehind

end Lacks

namespace Enters

/-- Paths that were entered are entered still. -/
lemma grow (h : m.Enters start base) (hfills : m.Fills made m') : m'.Enters start base where
  walk := by
    rw [hfills.origin]
    exact hfills.walk h.walk
  isDirectory := hfills.peek_eq_some h.isDirectory

/-- Plain names lead below the directory that was entered. -/
lemma spot_append (h : m.Enters start base) (hplain : ∀ name ∈ names, name.IsPlain) :
    m.spot (start.append names) = base ++ names := by
  rw [Machine.spot_append m start hplain]
  exact congrArg (· ++ names) (eq_follow_of_walk h.walk).symm

/-- A path of plain names below the directory is taken exactly if they fit there. -/
lemma isTaken_iff (h : m.Enters start base) (hplain : ∀ name ∈ names, name.IsPlain) :
    IsTaken (.ok (start.append names)) ↔ Fits start names := by
  constructor
  · rintro ⟨hnul, hshort, hsizes⟩
    exact ⟨fun name hname => ⟨hplain name hname, hsizes name (List.mem_append_right _ hname)⟩,
      hnul, hshort⟩
  · intro hfits
    refine ⟨hfits.noNul, hfits.short, fun name hname => ?_⟩
    rcases List.mem_append.mp hname with hstart | hbelow
    · exact size_le_of_walk h.walk name hstart
    · exact (hfits.plain name hbelow).2

/-- Something is created exactly where nothing is yet, in a directory and by names that fit. -/
lemma create_eq_ok_iff (h : m.Enters start base) (hnames : names ≠ [])
    (hplain : ∀ name ∈ names, name.IsPlain) :
    (m.create (start.append names) t).1 = .ok () ↔
      Fits start names ∧ m.tree.peek (base ++ names.dropLast) = some .directory ∧
        m.tree.peek (base ++ names) = none := by
  unfold create
  cases hlocate : m.locate (start.append names) with
  | error fault =>
    refine iff_of_false (fun heq => by cases heq) ?_
    rintro ⟨hfits, hparent, -⟩
    rw [(h.locate_eq_ok_iff hnames hplain).mpr ⟨hfits, rfl, hparent⟩] at hlocate
    cases hlocate
  | ok location =>
    obtain ⟨hfits, rfl, hparent⟩ := (h.locate_eq_ok_iff hnames hplain).mp hlocate
    rw [Tree.peek_eq_none_iff]
    dsimp only
    split
    · next child hget =>
      refine iff_of_false (fun heq => by cases heq) ?_
      rintro ⟨-, -, hnone⟩
      rw [hget] at hnone
      cases hnone
    · next hget => exact iff_of_true rfl ⟨hfits, hparent, hget⟩

/-- What was created is seen. -/
lemma peek_create (h : m.Enters start base) (hnames : names ≠ [])
    (hplain : ∀ name ∈ names, name.IsPlain)
    (hcreate : (m.create (start.append names) t).1 = .ok ()) :
    (m.create (start.append names) t).2.tree.peek (base ++ names) = some t.node := by
  obtain ⟨hfits, hparent, hnone⟩ := (h.create_eq_ok_iff hnames hplain).mp hcreate
  have hlocate := (h.locate_eq_ok_iff hnames hplain).mpr ⟨hfits, rfl, hparent⟩
  unfold create
  rw [hlocate]
  dsimp only
  rw [Tree.peek_eq_none_iff.mp hnone]
  dsimp only
  have hlast : base ++ names = base ++ names.dropLast ++ [names.getLast hnames] := by
    rw [List.append_assoc, List.dropLast_concat_getLast]
  have hdrop : (base ++ names.dropLast ++ [names.getLast hnames]).drop
      ((base ++ names.dropLast).length + 1) = [] :=
    List.drop_of_length_le (by rw [List.length_append, List.length_singleton])
  rw [hlast, Tree.peek_insert hparent, if_pos List.prefix_rfl, hdrop, Tree.peek_nil]

/-- Where something is created or not found, some name is the first that leads to nothing. -/
lemma exists_lacks (h : m.Enters start base) (hnames : names ≠ [])
    (hplain : ∀ name ∈ names, name.IsPlain)
    (hcreate : (m.create (start.append names) t).1 = .ok () ∨
      (m.create (start.append names) t).1 = .error .notFound) :
    (start.append names).hasNul = false ∧ (start.append names).size ≤ longestPath ∧
      ∃ front name rest, names = front ++ name :: rest ∧ m.Lacks start base front name := by
  rcases hcreate with hok | hmissing
  · obtain ⟨hfits, hparent, hnone⟩ := (h.create_eq_ok_iff hnames hplain).mp hok
    have hlast := List.dropLast_concat_getLast hnames
    rw [← hlast] at hfits hnone
    exact ⟨hlast ▸ hfits.noNul, hlast ▸ hfits.short, names.dropLast, names.getLast hnames, [],
      hlast.symm, hfits, hparent, hnone⟩
  · unfold create at hmissing
    cases hlocate : m.locate (start.append names) with
    | ok location =>
      rw [hlocate] at hmissing
      dsimp only at hmissing
      split at hmissing <;> cases hmissing
    | error fault =>
      rw [hlocate] at hmissing
      cases hmissing
      unfold locate at hlocate
      split at hlocate
      · cases hlocate
      · next hnul =>
        split at hlocate
        · cases hlocate
        · next hshort =>
          rw [Bool.not_eq_true] at hnul
          rw [Nat.not_lt] at hshort
          change m.walk (m.origin start) (start.names ++ names) = _ at hlocate
          rw [h.walk_append hnames] at hlocate
          obtain ⟨front, name, rest, rfl, hsizes, hparent, hnone⟩ :=
            exists_missing_of_walk hplain h.isDirectory hlocate
          have hpath : start.append (front ++ name :: rest) =
              (start.append (front ++ [name])).append rest := by simp
          refine ⟨hnul, hshort, front, name, rest, rfl, ⟨fun other hother => ?_, ?_, ?_⟩,
            hparent, hnone⟩
          · refine ⟨hplain other ?_, hsizes other hother⟩
            rw [List.append_cons]
            exact List.mem_append_left _ hother
          · rw [hpath] at hnul
            exact Path.hasNul_of_append hnul
          · rw [hpath] at hshort
            exact (Path.size_le_append _ rest).trans hshort

/-- Making a directory below the one that was entered fills locations on the way there with
directories, by names that fit. -/
lemma fills_makeDirectories (h : m.Enters start base) (hplain : ∀ name ∈ names, name.IsPlain) :
    m.Fills (fun location node => node = .directory ∧ ∃ front ≠ [], front <+: names ∧
      location = base ++ front ∧ Fits start front)
      (m.run (makeDirectories (start.append names))).2 := by
  have hfills := m.fills_makeDirectories (start.append names)
  refine ⟨hfills.here, hfills.sizeLimit, hfills.distinct, fun location => ?_⟩
  refine (hfills.peek location).imp_right ?_
  rintro ⟨hnone, node, hnode, rfl, front, hfront, hbegins, rfl, htaken⟩
  refine ⟨hnone, _, hnode, rfl, ?_⟩
  -- the directories on the way to the one that was entered are there
  have hthere : ¬front <+: start.names := by
    rintro ⟨rest, hnames⟩
    suffices hdir : m.tree.peek (m.spot ⟨start.isAbsolute, front⟩) = some .directory by
      change m.tree.peek (m.spot ⟨start.isAbsolute, front⟩) = none at hnone
      rw [hdir] at hnone
      cases hnone
    have hwalk := h.walk
    rw [← hnames] at hwalk
    rcases eq_or_ne rest [] with rfl | hrest
    · rw [List.append_nil] at hwalk
      change m.tree.peek (follow (m.origin start) front) = _
      rw [← eq_follow_of_walk hwalk]
      exact h.isDirectory
    · obtain ⟨location, hlocation, hdir⟩ := exists_walk_of_append hfront hrest hwalk
      change m.tree.peek (follow (m.origin start) front) = _
      rwa [← eq_follow_of_walk hlocation]
  obtain ⟨below, rfl⟩ :=
    (List.prefix_or_prefix_of_prefix hbegins (List.prefix_append _ _)).resolve_left hthere
  have hbelow : below <+: names := (List.prefix_append_right_inj _).mp hbegins
  have hplain := fun name hname => hplain name (hbelow.subset hname)
  refine ⟨below, ?_, hbelow, h.spot_append hplain, (h.isTaken_iff hplain).mp htaken⟩
  rintro rfl
  exact hthere (by rw [List.append_nil])

/-- Making the directory above leaves the last name missing. -/
lemma peek_concat_of_made (h : m.Enters start base) (hplain : ∀ name ∈ names, name.IsPlain)
    {last : Name} (hnone : m.tree.peek (base ++ (names ++ [last])) = none) :
    (m.run (makeDirectories (start.append names))).2.tree.peek (base ++ (names ++ [last])) =
      none := by
  rcases (h.fills_makeDirectories hplain).peek (base ++ (names ++ [last])) with
    hsame | ⟨-, node, -, -, front, -, hfront, heq, -⟩
  · rw [hsame, hnone]
  · have hlong := hfront.length_le
    rw [← List.append_cancel_left heq, List.length_append, List.length_singleton] at hlong
    omega

/-- A directory whose path goes on behind a name that leads to nothing is not found. -/
lemma create_of_lacks (h : m.Enters start base) (hlacks : m.Lacks start base front name)
    (hrest : rest ≠ []) (hnul : (start.append (front ++ name :: rest)).hasNul = false)
    (hshort : (start.append (front ++ name :: rest)).size ≤ longestPath) :
    m.create (start.append (front ++ name :: rest)) t = (.error .notFound, m) := by
  have hwalk : m.walk base front = .ok (base ++ front) := by
    rcases eq_or_ne front [] with rfl | hfront
    · rw [List.append_nil]
      rfl
    · have hclear : ∀ other content, other <+: front → other ≠ front →
          m.tree.peek (base ++ other) ≠ some (.file content) := by
        intro other content hother _ hfile
        rw [Tree.peek_of_prefix hlacks.parent hother] at hfile
        cases hfile
      rw [walk_plain hfront (fun other hother => hlacks.fits.plain other
        (List.mem_append_left _ hother)) h.isDirectory hclear, if_pos]
      exact Tree.peek_of_prefix hlacks.parent front.dropLast_prefix
  obtain ⟨hname, hsize⟩ := hlacks.fits.plain name (by simp)
  have hmissing := hlacks.missing
  rw [← List.append_assoc] at hmissing
  have hlocate : m.locate (start.append (front ++ name :: rest)) = .error .notFound := by
    unfold locate
    rw [if_neg (by simp [hnul]), if_neg (Nat.not_lt.mpr hshort)]
    change m.walk (m.origin start) (start.names ++ (front ++ name :: rest)) = _
    rw [h.walk_append (by simp), Machine.walk_append hwalk hlacks.parent (by simp),
      walk_cons _ _ _ hrest, enter_of_none hname hsize hmissing]
    rfl
  unfold create
  rw [hlocate]

/-- A single directory that is missing is made. -/
lemma run_makeDirectories_of_parent (h : m.Enters start base)
    (hlacks : m.Lacks start base front name) :
    (m.run (makeDirectories (start.append (front ++ [name])))).1 = .ok () ∧
      (m.run (makeDirectories (start.append (front ++ [name])))).2.tree.peek
        (base ++ (front ++ [name])) = some .directory := by
  have hne : front ++ [name] ≠ [] := by simp
  have hplain : ∀ other ∈ front ++ [name], other.IsPlain := fun other hother =>
    (hlacks.fits.plain other hother).1
  have hparent : m.tree.peek (base ++ (front ++ [name]).dropLast) = some .directory := by
    rw [List.dropLast_concat]
    exact hlacks.parent
  have hok : (m.create (start.append (front ++ [name])) .empty).1 = .ok () :=
    (h.create_eq_ok_iff hne hplain).mpr ⟨hlacks.fits, hparent, hlacks.missing⟩
  have hpeek := h.peek_create hne hplain hok
  rw [run_makeDirectories_concat]
  rcases hcreate : m.create (start.append (front ++ [name])) .empty with ⟨outcome, m'⟩
  rw [hcreate] at hok hpeek
  subst hok
  exact ⟨rfl, hpeek⟩

/-- Making a directory makes all those on the way from the first that is missing on, as far as their
names are not too long. -/
lemma run_makeDirectories_of_lacks (h : m.Enters start base)
    (hlacks : m.Lacks start base front name) (hplain : ∀ other ∈ rest, other.IsPlain)
    (hnul : (start.append (front ++ name :: rest)).hasNul = false)
    (hshort : (start.append (front ++ name :: rest)).size ≤ longestPath) :
    (∀ more, more <+: rest → (∀ other ∈ more, other.size ≤ longestName) →
      (m.run (makeDirectories (start.append (front ++ name :: rest)))).2.tree.peek
        (base ++ (front ++ name :: more)) = some .directory) ∧
    ((∀ other ∈ rest, other.size ≤ longestName) →
      (m.run (makeDirectories (start.append (front ++ name :: rest)))).1 = .ok ()) := by
  -- the last directory is asked for first, and again once those above it are made
  induction rest using List.reverseRecOn with
  | nil =>
    obtain ⟨hok, hpeek⟩ := h.run_makeDirectories_of_parent hlacks
    refine ⟨fun more hmore _ => ?_, fun _ => hok⟩
    rw [List.prefix_nil.mp hmore]
    exact hpeek
  | append_singleton rest last ih =>
    have hwhole : front ++ name :: (rest ++ [last]) = front ++ name :: rest ++ [last] := by simp
    have hpath : start.append (front ++ name :: (rest ++ [last])) =
        (start.append (front ++ name :: rest)).append [last] := by simp
    obtain ⟨hrest, -⟩ := List.forall_mem_append.mp hplain
    have hall := hlacks.isPlain hplain
    have hmissing := h.create_of_lacks hlacks (t := .empty) (by simp) hnul hshort
    obtain ⟨hpeek, hok⟩ := ih hrest (Path.hasNul_of_append (hpath ▸ hnul))
      ((Path.size_le_append _ [last]).trans (hpath ▸ hshort))
    have hfills := h.fills_makeDirectories (hlacks.isPlain hrest)
    have hnone := h.peek_concat_of_made (hlacks.isPlain hrest)
      (hwhole ▸ hlacks.peek_append (rest ++ [last]))
    rw [hwhole, run_makeDirectories_concat, ← hwhole, hmissing]
    dsimp only
    rcases hrun : m.run (makeDirectories (start.append (front ++ name :: rest))) with ⟨outcome, m'⟩
    rw [hrun] at hpeek hok hfills hnone
    dsimp only at hpeek hok hfills hnone
    have h' := h.grow hfills
    -- now nothing speaks against the last one but its name
    have hcreate : (∀ other ∈ rest ++ [last], other.size ≤ longestName) → outcome = .ok () ∧
        (m'.create (start.append (front ++ name :: (rest ++ [last]))) .empty).1 = .ok () := by
      intro hsizes
      obtain ⟨hshorts, -⟩ := List.forall_mem_append.mp hsizes
      refine ⟨hok hshorts, (h'.create_eq_ok_iff (by simp) hall).mpr
        ⟨hlacks.fits_append hplain hsizes hnul hshort, ?_, hwhole ▸ hnone⟩⟩
      rw [hwhole, List.dropLast_concat]
      exact hpeek rest List.prefix_rfl hshorts
    rcases outcome with fault | ⟨⟩
    · refine ⟨fun more hmore hsizes => ?_, fun hsizes => ?_⟩
      · rcases List.prefix_concat_iff.mp hmore with rfl | hmore
        · cases (hcreate hsizes).1
        · exact hpeek more hmore hsizes
      · cases (hcreate hsizes).1
    · dsimp only
      have hcreated := m'.fills_create (start.append (front ++ name :: (rest ++ [last])))
        Tree.distinct_empty fun rest => Tree.peek_empty_of_ne
      have hnew := h'.peek_create (t := .empty) (by simp) hall
      rcases hlast : m'.create (start.append (front ++ name :: (rest ++ [last]))) .empty with
        ⟨outcome, m''⟩
      rw [hlast] at hcreate hcreated hnew
      dsimp only at hcreate hcreated hnew
      refine ⟨fun more hmore hsizes => ?_, fun hsizes => ?_⟩
      · have hdir : m''.tree.peek (base ++ (front ++ name :: more)) = some .directory := by
          rcases List.prefix_concat_iff.mp hmore with rfl | hmore
          · exact hnew (hcreate hsizes).2
          · exact hcreated.peek_eq_some (hpeek more hmore hsizes)
        cases outcome with
        | error fault => exact hdir
        | ok _ => exact hdir
      · rw [(hcreate hsizes).2]

/-- Where no file is in the way and the names fit, a directory is made or there already. -/
lemma run_makeDirectories_of_clear (h : m.Enters start base) (hnames : names ≠ [])
    (hfits : Fits start names)
    (hclear : ∀ front content, front <+: names → m.tree.peek (base ++ front) ≠ some (.file content)) :
    (m.run (makeDirectories (start.append names))).1 = .ok () ∧
      (m.run (makeDirectories (start.append names))).2.tree.peek (base ++ names) =
        some .directory := by
  have hplain : ∀ name ∈ names, name.IsPlain := fun name hname => (hfits.plain name hname).1
  by_cases hdir : m.tree.peek (base ++ names) = some .directory
  · obtain ⟨entries, hentries⟩ := Tree.peek_eq_directory_iff.mp hdir
    have hlook := (h.look_eq_ok_iff hnames hplain).mpr ⟨hfits, rfl, hentries⟩
    have hcreate : m.create (start.append names) .empty = (.error .alreadyExists, m) := by
      unfold create
      rw [(Machine.look_eq_ok_iff.mp hlook).1]
      dsimp only
      rw [hentries]
    have hthere : m.isDirectory (start.append names) = true := by
      unfold Machine.isDirectory
      rw [hlook]
      rfl
    have hrun : m.run (makeDirectories (start.append names)) = (.ok (), m) := by
      rw [← List.dropLast_concat_getLast hnames, run_makeDirectories_concat,
        List.dropLast_concat_getLast, hcreate]
      dsimp only
      rw [hthere]
      rfl
    rw [hrun]
    exact ⟨rfl, hdir⟩
  · -- nothing is there, so some name is the first that leads to nothing
    have hnone : m.tree.peek (base ++ names) = none := by
      cases hpeek : m.tree.peek (base ++ names) with
      | none => rfl
      | some node =>
        cases node with
        | file content => exact absurd hpeek (hclear names content List.prefix_rfl)
        | directory => exact absurd hpeek hdir
    have hcreate : (m.create (start.append names) .empty).1 = .ok () ∨
        (m.create (start.append names) .empty).1 = .error .notFound := by
      by_cases hparent : m.tree.peek (base ++ names.dropLast) = some .directory
      · exact .inl ((h.create_eq_ok_iff hnames hplain).mpr ⟨hfits, hparent, hnone⟩)
      · refine .inr ?_
        have hlocate : m.locate (start.append names) = .error .notFound := by
          unfold locate
          rw [if_neg (by simp [hfits.noNul]), if_neg (Nat.not_lt.mpr hfits.short)]
          change m.walk (m.origin start) (start.names ++ names) = _
          rw [h.walk_append hnames, walk_plain hnames hfits.plain h.isDirectory
            fun front content hfront _ => hclear front content hfront, if_neg hparent]
        unfold create
        rw [hlocate]
    obtain ⟨hnul, hshort, front, name, rest, rfl, hlacks⟩ := h.exists_lacks hnames hplain hcreate
    have hrest : ∀ other ∈ rest, other.IsPlain ∧ other.size ≤ longestName := fun other hother =>
      hfits.plain other (List.mem_append_right _ (List.mem_cons_of_mem _ hother))
    obtain ⟨hpeek, hok⟩ := h.run_makeDirectories_of_lacks hlacks
      (fun other hother => (hrest other hother).1) hnul hshort
    exact ⟨hok fun other hother => (hrest other hother).2,
      hpeek rest List.prefix_rfl fun other hother => (hrest other hother).2⟩

end Enters

end Machine

end ClaimCheck.Disk
