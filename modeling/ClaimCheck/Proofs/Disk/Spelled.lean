import Mathlib
import ClaimCheck.Proofs.Disk.Listed

/-!
# What calls leave on disk

A store on disk may be given any calls at all: for names that overlap, names that are too long, names
with a zero byte.  Some leave directories behind that hold no file.  Two things are true whatever
calls were made: the root leads where it did, and each file is where the name of a blob leads and each
directory has a path that the file system takes (`Spelled`).

The first follows from what the programs of the store may ask (`Request.StaysBelow`): only names that
lead to entries go on from the root, and nothing is asked above it but to make directories that are
there.  The second is kept by every such request (`IsKept.answer`), hence by every call
(`IsKept.run_perform`).
-/

namespace ClaimCheck.Disk

open Store

/-! ## Requests below a root -/

/-- A path that goes on from a root by names that lead to entries. -/
def Path.IsBelow (root path : Path) : Prop :=
  ∃ names ≠ [], (∀ name ∈ names, name.IsPlain) ∧ path = root.append names

/-- A path on the way to a root. -/
def Path.IsAbove (root path : Path) : Prop :=
  path.names ≠ [] ∧ ∃ rest, root = path.append rest

/-- A path that the name of a blob spells. -/
def Path.IsBlob (root path : Path) : Prop :=
  ∃ c names name, c.IsPlain ∧ Account.segments name = .ok names ∧ path = root.append (c :: names)

/-- The path of a blob goes on from the root. -/
lemma Path.IsBlob.isBelow {root path : Path} (h : root.IsBlob path) : root.IsBelow path := by
  obtain ⟨c, names, name, hc, hsegments, rfl⟩ := h
  refine ⟨c :: names, List.cons_ne_nil _ _, fun other hother => ?_, rfl⟩
  rcases List.mem_cons.mp hother with rfl | hother
  · exact hc
  · exact isPlain_of_segments hsegments hother

/-- A request that makes files only where names of blobs lead, makes directories only on the way to
the root or below it, and takes something away only below it. -/
def Request.StaysBelow (root : Path) : Request → Prop
  | .makeDirectory path => root.IsAbove path ∨ root.IsBelow path
  | .createNew path => root.IsBlob path
  | .write path _ => root.IsBlob path
  | .remove path => root.IsBelow path
  | .removeDirectory path => root.IsBelow path
  | .removeTree path => root.IsBelow path
  | _ => True

namespace Anchored

variable {m : Machine} {root path : Path} {base location : Location} {t : Tree ByteArray}
  {names : List Name}

/-- A path below the root that leads somewhere leads to the location of its names, in a
directory. -/
lemma eq_of_locate (h : Anchored m root base t) (hnames : names ≠ [])
    (hplain : ∀ name ∈ names, name.IsPlain)
    (hlocate : m.locate (root.append names) = .ok location) :
    location = base ++ names ∧ t.peek names.dropLast = some .directory := by
  have hwalk : m.walk (m.origin root) root.names = .ok base := h.leads m.tree fun _ _ => rfl
  unfold Machine.locate at hlocate
  split at hlocate
  · cases hlocate
  · split at hlocate
    · cases hlocate
    · change m.walk (m.origin root) (root.names ++ names) = _ at hlocate
      rw [Machine.walk_append hwalk h.peek_base hnames] at hlocate
      rw [← h.peek_append]
      exact Machine.eq_of_walk hnames hplain h.peek_base hlocate

/-- What a creation below the root may do: nothing, or place a tree where there was none, by a path
that the file system takes. -/
lemma create_cases (h : Anchored m root base t) (hnames : names ≠ [])
    (hplain : ∀ name ∈ names, name.IsPlain) (new : Tree ByteArray) :
    (m.create (root.append names) new).2 = m ∨
      Fits root names ∧ t.peek names.dropLast = some .directory ∧ t.peek names = none ∧
        (m.create (root.append names) new).2 =
          { m with tree := m.tree.insert (base ++ names) new } := by
  unfold Machine.create
  cases hlocate : m.locate (root.append names) with
  | error fault => exact .inl rfl
  | ok location =>
    obtain ⟨rfl, hparent⟩ := h.eq_of_locate hnames hplain hlocate
    dsimp only
    cases hget : m.tree.get? (base ++ names) with
    | some child => exact .inl rfl
    | none =>
      rw [h.get?_append] at hget
      exact .inr ⟨Machine.Enters.fits_of_locate hplain hlocate, hparent,
        Tree.peek_eq_none_iff.mpr hget, rfl⟩

/-- What a removal below the root may do: nothing, or take away what was there. -/
lemma takeAway_cases (h : Anchored m root base t) (hnames : names ≠ [])
    (hplain : ∀ name ∈ names, name.IsPlain) (against : Tree ByteArray → Option Fault) :
    (m.takeAway (root.append names) against).2 = m ∨
      t.peek names.dropLast = some .directory ∧
        (m.takeAway (root.append names) against).2 =
          { m with tree := m.tree.erase (base ++ names) } := by
  unfold Machine.takeAway
  cases hlook : m.look (root.append names) with
  | error fault => exact .inl rfl
  | ok found =>
    obtain ⟨location, child⟩ := found
    obtain ⟨hlocate, -⟩ := Machine.look_eq_ok_iff.mp hlook
    obtain ⟨rfl, hparent⟩ := h.eq_of_locate hnames hplain hlocate
    dsimp only
    cases against child with
    | some fault => exact .inl rfl
    | none => exact .inr ⟨hparent, rfl⟩

/-- What a write below the root may do: nothing, or put other bytes into a file. -/
lemma write_cases (h : Anchored m root base t) (hnames : names ≠ [])
    (hplain : ∀ name ∈ names, name.IsPlain) (data : ByteArray) :
    (m.write (root.append names) data).2 = m ∨
      ∃ old, t.peek names = some (.file old) ∧ (m.write (root.append names) data).2 =
        { m with tree := m.tree.insert (base ++ names) (.file data) } := by
  unfold Machine.write
  cases hlook : m.look (root.append names) with
  | error fault => exact .inl rfl
  | ok found =>
    obtain ⟨location, child⟩ := found
    obtain ⟨hlocate, hget⟩ := Machine.look_eq_ok_iff.mp hlook
    obtain ⟨rfl, -⟩ := h.eq_of_locate hnames hplain hlocate
    rw [h.get?_append] at hget
    cases child with
    | directory entries => exact .inl rfl
    | file old =>
      rw [h.unlimited]
      exact .inr ⟨old, Tree.peek_eq_file_iff.mpr hget, rfl⟩

/-- The directories on the way to the root are there, so none is made. -/
lemma create_above (h : Anchored m root base t) (habove : root.IsAbove path)
    (new : Tree ByteArray) : (m.create path new).2 = m := by
  obtain ⟨hpath, rest, rfl⟩ := habove
  have hwalk : m.walk (m.origin path) (path.names ++ rest) = .ok base :=
    h.leads m.tree fun _ _ => rfl
  have hthere : ∀ location, m.walk (m.origin path) path.names = .ok location →
      m.tree.get? location ≠ none := by
    intro location hlocation
    rw [ne_eq, ← Tree.peek_eq_none_iff]
    rcases eq_or_ne rest [] with rfl | hrest
    · rw [List.append_nil, hlocation] at hwalk
      cases hwalk
      rw [h.peek_base]
      exact Option.some_ne_none _
    · obtain ⟨other, hother, hdir⟩ := Machine.exists_walk_of_append hpath hrest hwalk
      rw [hlocation] at hother
      cases hother
      rw [hdir]
      exact Option.some_ne_none _
  unfold Machine.create Machine.locate
  split
  · rfl
  · next location hlocate =>
    split at hlocate
    · cases hlocate
    · split at hlocate
      · cases hlocate
      · obtain ⟨child, hchild⟩ := Option.ne_none_iff_exists'.mp (hthere location hlocate)
        rw [hchild]

end Anchored

/-! ## Trees whose files are blobs -/

/-- Each file below the root is where the name of a blob leads, each directory has a path that the file
system takes, and no two entries of a directory share a name. -/
structure Spelled (root : Path) (t : Tree ByteArray) : Prop where
  distinct : t.Distinct
  exists_segments : ∀ location data, t.peek location = some (.file data) →
    ∃ c names name, location = c :: names ∧ Account.segments name = .ok names
  fits : ∀ location ≠ [], t.peek location = some .directory → Fits root location

namespace Spelled

variable {root : Path} {t leaf : Tree ByteArray} {names : Location}

/-- An empty directory has nothing below it. -/
lemma empty : Spelled root (.directory []) where
  distinct := Tree.distinct_empty
  exists_segments location data h := by
    cases location <;> cases h
  fits location hne h := by
    rw [← Tree.empty, Tree.peek_empty_of_ne hne] at h
    cases h

/-- A leaf that is placed in a directory, over nothing or a file, is a directory whose path fits or is
where the name of a blob leads. -/
lemma insert (h : Spelled root t) (hnames : names ≠ [])
    (hparent : t.peek names.dropLast = some .directory)
    (hbelow : ∀ rest ≠ [], t.peek (names ++ rest) = none) (hleaf : leaf.Distinct)
    (hsmall : ∀ rest ≠ [], leaf.peek rest = none)
    (hfile : ∀ data, leaf.node = .file data →
      ∃ c others name, names = c :: others ∧ Account.segments name = .ok others)
    (hdir : leaf.node = .directory → Fits root names) : Spelled root (t.insert names leaf) := by
  have hpeek : ∀ location, (t.insert names leaf).peek location =
      if location = names then some leaf.node else t.peek location := by
    obtain ⟨dir, last, rfl⟩ := (List.eq_nil_or_concat names).resolve_left hnames
    rw [List.concat_eq_append] at *
    rw [List.dropLast_concat] at hparent
    exact Tree.peek_insert_leaf hparent hbelow hsmall
  refine ⟨h.distinct.insert hleaf _, fun location data hlocation => ?_,
    fun location hne hlocation => ?_⟩
  · rw [hpeek] at hlocation
    split at hlocation
    · next heq =>
      subst heq
      exact hfile data (Option.some.inj hlocation)
    · exact h.exists_segments location data hlocation
  · rw [hpeek] at hlocation
    split at hlocation
    · next heq =>
      subst heq
      exact hdir (Option.some.inj hlocation)
    · exact h.fits location hne hlocation

/-- Taking something away takes at most files and directories. -/
lemma erase (h : Spelled root t) (hnames : names ≠ [])
    (hparent : t.peek names.dropLast = some .directory) : Spelled root (t.erase names) := by
  have hpeek : ∀ location node, (t.erase names).peek location = some node →
      t.peek location = some node := by
    intro location node hlocation
    obtain ⟨dir, last, rfl⟩ := (List.eq_nil_or_concat names).resolve_left hnames
    rw [List.concat_eq_append] at *
    rw [List.dropLast_concat] at hparent
    rw [Tree.peek_erase hparent] at hlocation
    split at hlocation
    · cases hlocation
    · exact hlocation
  exact ⟨h.distinct.erase _, fun location data hfile => h.exists_segments _ _ (hpeek _ _ hfile),
    fun location hne hdir => h.fits location hne (hpeek _ _ hdir)⟩

/-- No file is where a container would be. -/
lemma peek_container_ne_file (h : Spelled root t) (c : Name) (data : ByteArray) :
    t.peek [c] ≠ some (.file data) := by
  intro hfile
  obtain ⟨other, names, name, heq, hsegments⟩ := h.exists_segments _ _ hfile
  cases heq
  exact segments_ne_nil hsegments rfl

end Spelled

/-- The root leads to a base below which files and directories are where they belong. -/
def IsKept (root : Path) (base : Location) (m : Machine) : Prop :=
  ∃ t, Anchored m root base t ∧ Spelled root t

variable {root : Path} {base : Location} {m : Machine}

/-- Placing an empty directory or a file. -/
lemma IsKept.create (h : IsKept root base m) {path : Path} (hpath : root.IsBelow path)
    {leaf : Tree ByteArray} (hleaf : leaf.Distinct) (hsmall : ∀ rest ≠ [], leaf.peek rest = none)
    (hspelled : leaf.node = .directory ∨ root.IsBlob path) :
    IsKept root base (m.create path leaf).2 := by
  obtain ⟨t, hanchored, ht⟩ := h
  obtain ⟨names, hnames, hplain, rfl⟩ := hpath
  rcases hanchored.create_cases hnames hplain leaf with heq | ⟨hfits, hparent, hnone, heq⟩
  · rw [heq]
    exact ⟨t, hanchored, ht⟩
  · rw [heq]
    refine ⟨_, hanchored.insert hnames hparent leaf, ht.insert hnames hparent
      (fun rest _ => Tree.peek_append_of_none hnone rest) hleaf hsmall (fun data hfile => ?_)
      fun _ => hfits⟩
    rcases hspelled with hdir | ⟨c, others, name, -, hsegments, hpath⟩
    · rw [hdir] at hfile
      cases hfile
    · have hsame : names = c :: others :=
        List.append_cancel_left (congrArg Path.names hpath)
      exact ⟨c, others, name, hsame, hsegments⟩

/-- Taking something away. -/
lemma IsKept.takeAway (h : IsKept root base m) {path : Path} (hpath : root.IsBelow path)
    (against : Tree ByteArray → Option Fault) : IsKept root base (m.takeAway path against).2 := by
  obtain ⟨t, hanchored, ht⟩ := h
  obtain ⟨names, hnames, hplain, rfl⟩ := hpath
  rcases hanchored.takeAway_cases hnames hplain against with heq | ⟨hparent, heq⟩
  · rw [heq]
    exact ⟨t, hanchored, ht⟩
  · rw [heq]
    exact ⟨_, hanchored.erase hnames hparent, ht.erase hnames hparent⟩

/-- Writing a file. -/
lemma IsKept.write (h : IsKept root base m) {path : Path} (hpath : root.IsBlob path)
    (data : ByteArray) : IsKept root base (m.write path data).2 := by
  obtain ⟨t, hanchored, ht⟩ := h
  obtain ⟨names, hnames, hplain, rfl⟩ := hpath.isBelow
  rcases hanchored.write_cases hnames hplain data with heq | ⟨old, hfile, heq⟩
  · rw [heq]
    exact ⟨t, hanchored, ht⟩
  · obtain ⟨c, others, name, -, hsegments, hpath⟩ := hpath
    have hsame : names = c :: others := List.append_cancel_left (congrArg Path.names hpath)
    have hparent : t.peek names.dropLast = some .directory := by
      refine Tree.peek_of_append (List.cons_ne_nil (names.getLast hnames) []) ?_
      rw [List.dropLast_append_getLast, hfile]
      exact Option.some_ne_none _
    rw [heq]
    exact ⟨_, hanchored.insert hnames hparent _, ht.insert hnames hparent
      (fun rest hrest => Tree.peek_append_of_file hfile hrest) (Tree.distinct_file data)
      (fun rest => Tree.peek_file_of_ne data) (fun _ _ => ⟨c, others, name, hsame, hsegments⟩)
      fun hdir => by cases hdir⟩

/-- One request: whatever stays below the root keeps what is kept. -/
lemma IsKept.answer (h : IsKept root base m) {r : Request} (hr : r.StaysBelow root) :
    IsKept root base (Machine.answer r m).2 := by
  cases r with
  | makeDirectory path =>
    rcases hr with habove | hbelow
    · obtain ⟨t, hanchored, ht⟩ := h
      have hsame : (Machine.answer (.makeDirectory path) m).2 = m :=
        hanchored.create_above habove .empty
      rw [hsame]
      exact ⟨t, hanchored, ht⟩
    · exact h.create hbelow Tree.distinct_empty (fun rest => Tree.peek_empty_of_ne) (.inl rfl)
  | createNew path =>
    exact h.create (Path.IsBlob.isBelow hr) (Tree.distinct_file _)
      (fun rest => Tree.peek_file_of_ne _) (.inr hr)
  | write path data => exact h.write hr data
  | remove path => exact h.takeAway hr _
  | removeDirectory path => exact h.takeAway hr _
  | removeTree path => exact h.takeAway hr _
  | _ => exact h

/-! ## What the programs of a store ask -/

/-- The directory above one that was to be made was missing. -/
def WasMissing (past : Program.Past Request Request.Reply) (path : Path) : Prop :=
  (⟨.makeDirectory path, .error .notFound⟩ : Σ r : Request, r.Reply) ∈ past

section Asking

variable {α β : Type} {kind : Request → Prop}

namespace Attempt

/-- Putting the fault into other words asks nothing more. -/
lemma asksOnly_wrapping {words : Fault → Store.Fault} {p : Action (Except Fault α)}
    (hp : p.AsksOnly kind) : Program.AsksOnly kind (Attempt.wrapping words p).run :=
  Program.AsksOnly.bind hp fun _ => trivial

/-- A program that cannot fail, as an attempt. -/
lemma asksOnly_lift {p : Action α} (hp : p.AsksOnly kind) :
    Program.AsksOnly kind (ExceptT.lift p : Attempt α).run :=
  Program.AsksOnly.bind hp fun _ => trivial

/-- An attempt that begins with an outcome that is known. -/
lemma asksOnly_liftM_bind {outcome : Except Store.Fault α} {f : α → Attempt β}
    (hf : ∀ a, outcome = .ok a → Program.AsksOnly kind (f a).run) :
    Program.AsksOnly kind ((liftM outcome : Attempt α) >>= f).run := by
  rcases outcome with fault | a
  · trivial
  · exact hf a rfl

end Attempt

/-- Making directories asks to make those on the way and whether they are there, from the innermost on
up; one that is above another is asked for when that one was not found. -/
lemma asksAfter_makeUpTo {kinds : Program.Past Request Request.Reply → Request → Prop}
    {past : Program.Past Request Request.Reply} {isAbsolute : Bool} {names : List Name}
    (hask : ∀ front ≠ [], front <+: names → ∀ later, past <:+ later →
      (front ≠ names → ∃ name, front ++ [name] <+: names ∧
        WasMissing later ⟨isAbsolute, front ++ [name]⟩) →
      kinds later (.makeDirectory ⟨isAbsolute, front⟩) ∧
        kinds later (.isDirectory ⟨isAbsolute, front⟩)) :
    Program.AsksAfter kinds (makeUpTo isAbsolute names.reverse) past := by
  induction names using List.reverseRecOn generalizing past with
  | nil => trivial
  | append_singleton front name ih =>
    have hpath : (⟨isAbsolute, (name :: front.reverse).reverse⟩ : Path) =
        ⟨isAbsolute, front ++ [name]⟩ := by simp
    have hlast : ∀ later, past <:+ later →
        kinds later (.makeDirectory ⟨isAbsolute, front ++ [name]⟩) ∧
          kinds later (.isDirectory ⟨isAbsolute, front ++ [name]⟩) := fun later hlater =>
      hask (front ++ [name]) (by simp) List.prefix_rfl later hlater fun h => absurd rfl h
    have horElse : ∀ (fault : Fault) later, past <:+ later → Program.AsksAfter kinds (do
        if ← Action.perform (.isDirectory ⟨isAbsolute, front ++ [name]⟩) then pure (.ok ())
        else pure (.error fault) : Action (Except Fault Unit)) later := by
      intro fault later hlater
      refine ⟨(hlast later hlater).2, fun reply => ?_⟩
      rcases reply with _ | _ <;> trivial
    rw [List.reverse_concat, makeUpTo, hpath]
    refine ⟨(hlast past List.suffix_rfl).1, fun reply => ?_⟩
    have hasked : past <:+ ⟨.makeDirectory ⟨isAbsolute, front ++ [name]⟩, reply⟩ :: past :=
      List.suffix_cons _ _
    rcases reply with fault | ⟨⟩
    · by_cases hmissing : fault = .notFound
      · subst hmissing
        -- the directories above are asked for, the next one since this one was not found
        refine (ih fun other hother hstart later hlater hwhy => ?_).bind fun outcome later hlater => ?_
        · refine hask other hother (hstart.trans (List.prefix_append _ _)) later
            (hasked.trans hlater) fun _ => ?_
          by_cases hfront : other = front
          · subst hfront
            exact ⟨name, List.prefix_rfl, hlater.subset List.mem_cons_self⟩
          · obtain ⟨next, hnext, hlacks⟩ := hwhy hfront
            exact ⟨next, hnext.trans (List.prefix_append _ _), hlacks⟩
        · rcases outcome with fault | ⟨⟩
          · trivial
          · refine ⟨(hlast later (hasked.trans hlater)).1, fun reply => ?_⟩
            rcases reply with fault | ⟨⟩
            · exact horElse fault _ ((hasked.trans hlater).trans (List.suffix_cons _ _))
            · trivial
      · cases fault <;> first | exact horElse _ _ hasked | exact absurd rfl hmissing
    · trivial

/-- Making directories asks only to make those on the way and whether they are there. -/
lemma asksOnly_makeUpTo {isAbsolute : Bool} {names : List Name}
    (hask : ∀ front ≠ [], front <+: names →
      kind (.makeDirectory ⟨isAbsolute, front⟩) ∧ kind (.isDirectory ⟨isAbsolute, front⟩)) :
    Program.AsksOnly kind (makeUpTo isAbsolute names.reverse) := by
  have hafter : Program.AsksAfter (fun _ => kind) (makeUpTo isAbsolute names.reverse) [] :=
    asksAfter_makeUpTo fun front hfront hstart _ _ _ => hask front hfront hstart
  exact hafter.asksOnly

/-- Removing directories from the innermost on asks to remove each of them. -/
lemma asksOnly_prune {path : Path} {way : List Name}
    (hremove : ∀ front ≠ [], front <+: way → kind (.removeDirectory (path.append front))) :
    Program.AsksOnly kind (prune path way.reverse) := by
  induction way using List.reverseRecOn with
  | nil => trivial
  | append_singleton front name ih =>
    have hpath : path.append (name :: front.reverse).reverse = path.append (front ++ [name]) := by
      simp
    rw [List.reverse_concat, prune, hpath]
    refine (Program.asksOnly_request (hremove _ (by simp) List.prefix_rfl)).bind fun reply => ?_
    split
    · exact ih fun other hother hstart =>
        hremove other hother (hstart.trans (List.prefix_append _ _))
    · trivial

end Asking

namespace Account

variable {a : Account} {place : Locator} {container : String} {path : Path} {names : Location}

/-- The directories on the way to a blob are those on the way to the root and those below it. -/
lemma staysBelow_makeDirectory {front : List Name} (hfront : front ≠ [])
    (hplain : ∀ name ∈ names, name.IsPlain) (hstart : front <+: a.root.names ++ names) :
    Request.StaysBelow a.root (.makeDirectory ⟨a.root.isAbsolute, front⟩) := by
  obtain ⟨rest, hrest⟩ := hstart
  rcases List.append_eq_append_iff.mp hrest with ⟨others, hroot, -⟩ | ⟨others, hothers, hnames⟩
  · refine .inl ⟨hfront, others, ?_⟩
    unfold Path.append
    rw [← hroot]
  · rcases eq_or_ne others [] with rfl | hne
    · refine .inl ⟨hfront, [], ?_⟩
      unfold Path.append
      rw [hothers, List.append_nil, List.append_nil]
    · refine .inr ⟨others, hne, fun name hname => hplain name ?_, ?_⟩
      · rw [hnames]
        exact List.mem_append_left _ hname
      · unfold Path.append
        rw [hothers]

/-- Whether a container is there is asked before anything else is done in it. -/
lemma asksOnly_presentContainer_bind {α : Type} {f : Path → Attempt α}
    (hf : ∀ path, a.containerPath container = .ok path →
      Program.AsksOnly (Request.StaysBelow a.root) (f path).run) :
    Program.AsksOnly (Request.StaysBelow a.root) (a.presentContainer container >>= f).run := by
  unfold presentContainer
  cases hpath : a.containerPath container with
  | error fault => trivial
  | ok path =>
    refine ⟨trivial, fun reply => ?_⟩
    rcases reply with fault | there | there
    · trivial
    · trivial
    · exact hf path hpath

/-- Whatever a store is called for, it stays below its root. -/
lemma asksOnly_perform (a : Account) (call : Call) :
    Program.AsksOnly (Request.StaysBelow a.root) (a.perform call).run := by
  cases call with
  | put place data =>
    refine Attempt.asksOnly_liftM_bind fun path hpath => ?_
    refine Attempt.asksOnly_liftM_bind fun names hsegments => ?_
    obtain ⟨hc, rfl⟩ := eq_of_containerPath hpath
    have hblob : a.root.IsBlob ((a.root.append [place.container.toUTF8]).append names) :=
      ⟨_, names, place.name, hc, hsegments, Path.append_append _ _ _⟩
    refine Program.asksOnly_attempt_bind (Attempt.asksOnly_wrapping ?_) fun _ => ?_
    · rw [Path.append_append]
      refine asksOnly_makeUpTo fun front hfront hstart => ⟨?_, trivial⟩
      refine staysBelow_makeDirectory hfront (fun name hname => ?_) hstart
      rcases List.mem_append.mp hname with hname | hname
      · rw [List.mem_singleton.mp hname]
        exact hc
      · exact isPlain_of_segments hsegments (List.mem_of_mem_dropLast hname)
    · refine Program.asksOnly_attempt_bind (Attempt.asksOnly_wrapping (Program.asksOnly_request hblob))
        fun _ => Attempt.asksOnly_wrapping ?_
      refine (Program.asksOnly_request (r := Request.write _ data) hblob).bind fun outcome => ?_
      split
      · trivial
      · exact (Program.asksOnly_request (r := Request.remove _) hblob.isBelow).bind fun _ => trivial
  | get place =>
    refine asksOnly_presentContainer_bind fun path _ => ?_
    exact Attempt.asksOnly_liftM_bind fun names _ =>
      Attempt.asksOnly_wrapping (Program.asksOnly_request trivial)
  | deleteBlob place =>
    refine asksOnly_presentContainer_bind fun path hpath => ?_
    refine Attempt.asksOnly_liftM_bind fun names hsegments => ?_
    obtain ⟨hc, rfl⟩ := eq_of_containerPath hpath
    have hblob : a.root.IsBlob ((a.root.append [place.container.toUTF8]).append names) :=
      ⟨_, names, place.name, hc, hsegments, Path.append_append _ _ _⟩
    refine Program.asksOnly_attempt_bind
      (Attempt.asksOnly_wrapping (Program.asksOnly_request hblob.isBelow)) fun _ => ?_
    refine Attempt.asksOnly_lift (asksOnly_prune fun front _ hstart => ?_)
    refine ⟨place.container.toUTF8 :: front, List.cons_ne_nil _ _, fun name hname => ?_,
      Path.append_append _ _ _⟩
    rcases List.mem_cons.mp hname with rfl | hname
    · exact hc
    · exact isPlain_of_segments hsegments (List.mem_of_mem_dropLast (hstart.mem hname))
  | list container =>
    refine asksOnly_presentContainer_bind fun path _ => ?_
    have hcollect : (Listing.start path).collect.AsksAfter (fun _ => Request.StaysBelow a.root) [] :=
      Listing.asksAfter_collect (fun _ _ _ => trivial) _ (List.forall_mem_singleton.mpr .here)
    exact (Attempt.asksOnly_wrapping hcollect.asksOnly).bind fun outcome => by
      rcases outcome <;> trivial
  | deleteContainer container =>
    refine Attempt.asksOnly_liftM_bind fun path hpath => ?_
    obtain ⟨hc, rfl⟩ := eq_of_containerPath hpath
    refine Attempt.asksOnly_wrapping (Program.asksOnly_request ?_)
    exact ⟨_, List.cons_ne_nil _ _, fun name hname => List.mem_singleton.mp hname ▸ hc, rfl⟩

end Account

/-- A container below a root where all is kept is listed by the names of the files below it. -/
lemma IsKept.run_list {a : Account} (h : IsKept a.root base m) {container : String} {path : Path}
    {location : Location} {entries : Tree.Entries ByteArray}
    (hpath : a.containerPath container = .ok path)
    (hlook : m.look path = .ok (location, .directory entries)) :
    m.run (a.list container).run = (.ok (Tree.directory entries).blobNames, m) := by
  obtain ⟨t, hanchored, ht⟩ := h
  obtain ⟨hplain, rfl⟩ := Account.eq_of_containerPath hpath
  obtain ⟨hlocate, hstands⟩ := Machine.look_eq_ok_iff.mp hlook
  obtain ⟨rfl, -⟩ := hanchored.eq_of_locate (List.cons_ne_nil _ _)
    (List.forall_mem_singleton.mpr hplain) hlocate
  rw [hanchored.get?_append] at hstands
  have hdistinct := ht.distinct.part hstands
  refine run_list_of_fits hpath hlook hdistinct fun dir hdir => ?_
  obtain ⟨inner, hinner⟩ := (Tree.mem_directories_iff hdistinct).mp hdir
  have hget : t.get? ([container.toUTF8] ++ dir) = some (.directory inner) := by
    rw [Tree.get?_append, hstands, Option.bind_some, hinner]
  exact (ht.fits _ (by simp) (Tree.peek_eq_directory_iff.mpr ⟨inner, hget⟩)).right

/-- Whatever a store is called for, what is kept below its root stays kept. -/
lemma IsKept.run_perform {a : Account} (h : IsKept a.root base m) (call : Call) :
    IsKept a.root base (m.run (a.perform call).run).2 :=
  (a.asksOnly_perform call).keeps (fun _ _ hr hm => hm.answer hr) h

end ClaimCheck.Disk
