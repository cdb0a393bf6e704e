import Mathlib
import ClaimCheck.Proofs.Disk.Walk

/-!
# Running programs below a root

What each request does below an anchored root is read off the tree that stands there, and a program
is run request by request.  The first whole program is the one that makes a directory and all those
above it that are missing (`Anchored.run_makeDirectories`): where no file is in the way it succeeds,
and afterwards exactly the locations on the way are directories that were not before.
-/

namespace ClaimCheck.Disk

open Store

/-! ## Programs -/

namespace Machine

variable {α β : Type} {m : Machine}

/-- A request is answered. -/
lemma run_perform (m : Machine) (r : Request) : m.run (Action.perform r) = answer r m := rfl

/-- A program goes on with the value of its first part. -/
lemma run_bind (m : Machine) (p : Action α) (f : α → Action β) :
    m.run (p >>= f) = (m.run p).2.run (f (m.run p).1) := Program.run_bind answer p f m

/-- An attempt goes on with the value of its first part and stops at its fault. -/
lemma run_attempt_bind (m : Machine) (p : Attempt α) (f : α → Attempt β) :
    m.run (p >>= f).run =
      match m.run p.run with
      | (.ok a, m') => m'.run (f a).run
      | (.error fault, m') => (.error fault, m') := by
  change m.run (Program.bind p.run (ExceptT.bindCont f)) = _
  unfold run
  rw [Program.run_bind]
  rcases p.run.run answer m with ⟨fault | a, m'⟩ <;> rfl

/-- An attempt in two parts ends well exactly if both do. -/
lemma run_attempt_bind_eq_ok_iff {p : Attempt α} {f : α → Attempt β} {b : β} :
    (m.run (p >>= f).run).1 = .ok b ↔
      ∃ a, (m.run p.run).1 = .ok a ∧ ((m.run p.run).2.run (f a).run).1 = .ok b := by
  rw [run_attempt_bind]
  rcases m.run p.run with ⟨fault | a, m'⟩ <;> simp

/-- Putting the fault into the words of a store changes no request. -/
lemma run_wrapping (m : Machine) (words : Fault → Store.Fault) (p : Action (Except Fault α)) :
    m.run (Attempt.wrapping words p).run = ((m.run p).1.mapError words, (m.run p).2) := by
  change m.run (Program.bind p _) = _
  unfold run
  rw [Program.run_bind]
  rfl

/-- An outcome that is known asks nothing. -/
lemma run_liftM (m : Machine) (outcome : Except Store.Fault α) :
    m.run (liftM outcome : Attempt α).run = (outcome, m) := rfl

/-- A program that cannot fail, as an attempt. -/
lemma run_lift (m : Machine) (p : Action α) :
    m.run (ExceptT.lift p : Attempt α).run = (.ok (m.run p).1, (m.run p).2) := by
  change m.run (Program.bind p _) = _
  unfold run
  rw [Program.run_bind]
  rfl

/-- Making a directory tries the directory itself first, then the one above it, and then itself
again. -/
lemma run_makeDirectories_concat (m : Machine) (path : Path) (names : List Name) (name : Name) :
    m.run (makeDirectories (path.append (names ++ [name]))) =
      match m.create (path.append (names ++ [name])) .empty with
      | (.ok (), m') => (.ok (), m')
      | (.error .notFound, m') =>
        match m'.run (makeDirectories (path.append names)) with
        | (.error fault, m'') => (.error fault, m'')
        | (.ok (), m'') =>
          match m''.create (path.append (names ++ [name])) .empty with
          | (.ok (), last) => (.ok (), last)
          | (.error fault, last) =>
            (if last.isDirectory (path.append (names ++ [name])) then .ok () else .error fault, last)
      | (.error fault, m') =>
        (if m'.isDirectory (path.append (names ++ [name])) then .ok () else .error fault, m') := by
  have horElse : ∀ (last : Machine) (path : Path) (fault : Fault),
      last.run (do if ← Action.perform (.isDirectory path) then pure (.ok ()) else pure (.error fault)
        : Action (Except Fault Unit)) =
        (if last.isDirectory path then .ok () else .error fault, last) := by
    intro last path fault
    rw [run_bind, run_perform]
    change last.run (if last.isDirectory path then _ else _) = _
    split <;> rfl
  have hanswer : ∀ (m : Machine) (path : Path),
      answer (.makeDirectory path) m = m.create path .empty := fun _ _ => rfl
  have hreversed : (path.names ++ (names ++ [name])).reverse =
      name :: (path.names ++ names).reverse := by simp
  have hpath : (⟨path.isAbsolute, (name :: (path.names ++ names).reverse).reverse⟩ : Path) =
      path.append (names ++ [name]) := by
    rw [← hreversed, List.reverse_reverse]
    rfl
  have habove : makeUpTo path.isAbsolute (path.names ++ names).reverse =
      makeDirectories (path.append names) := rfl
  change m.run (makeUpTo path.isAbsolute (path.names ++ (names ++ [name])).reverse) = _
  rw [hreversed, makeUpTo, hpath, habove, run_bind, run_perform, hanswer]
  rcases m.create (path.append (names ++ [name])) .empty with ⟨fault | ⟨⟩, m'⟩
  · cases fault with
    | notFound =>
      dsimp only
      rw [run_bind]
      rcases m'.run (makeDirectories (path.append names)) with ⟨fault | ⟨⟩, m''⟩
      · rfl
      · dsimp only
        rw [run_bind, run_perform, hanswer]
        rcases m''.create (path.append (names ++ [name])) .empty with ⟨fault | ⟨⟩, last⟩
        · exact horElse last _ fault
        · rfl
    | _ => exact horElse m' _ _
  · rfl

end Machine

/-! ## Trees with a way made -/

section MadeWay

variable {t t' t'' : Tree ByteArray} {names : Location} {name : Name}

/-- A tree in which the directories on the way to a location were made, that one included, and
nothing else was changed. -/
def MadeWay (t : Tree ByteArray) (names : Location) (t' : Tree ByteArray) : Prop :=
  ∀ location, t'.peek location = if location <+: names then some .directory else t.peek location

/-- Nothing needs to be made on the way to a directory. -/
lemma madeWay_self (hdir : t.peek names = some .directory) : MadeWay t names t := by
  intro location
  split
  · next hstart =>
    obtain ⟨rest, rfl⟩ := hstart
    rcases eq_or_ne rest [] with rfl | hrest
    · rwa [List.append_nil] at hdir
    · exact Tree.peek_of_append hrest (by rw [hdir]; exact Option.some_ne_none _)
  · rfl

/-- One more directory on the way is made in the last one. -/
lemma MadeWay.concat (h : MadeWay t names t')
    (hpeek : ∀ location, t''.peek location =
      if location = names ++ [name] then some .directory else t'.peek location) :
    MadeWay t (names ++ [name]) t'' := by
  intro location
  rw [hpeek, h location]
  by_cases hlast : location = names ++ [name]
  · rw [if_pos hlast, if_pos (hlast ▸ List.prefix_rfl)]
  · have hiff : location <+: names ++ [name] ↔ location <+: names := by
      rw [List.prefix_concat_iff, or_iff_right hlast]
    rw [if_neg hlast]
    simp only [hiff]

end MadeWay

/-! ## Requests below a root -/

namespace Anchored

variable {m : Machine} {root : Path} {base : Location} {t : Tree ByteArray} {names : List Name}

/-- What is taken away below a root. -/
lemma takeAway (h : Anchored m root base t) (hfits : Fits root names) (hnames : names ≠ [])
    (hclear : t.Clear names) (against : Tree ByteArray → Option Fault) :
    m.takeAway (root.append names) against =
      match t.get? names with
      | none => (.error .notFound, m)
      | some child =>
        match against child with
        | some fault => (.error fault, m)
        | none => (.ok (), { m with tree := m.tree.erase (base ++ names) }) := by
  unfold Machine.takeAway
  rw [h.look hfits hnames hclear]
  cases t.get? names <;> rfl

/-- What is read below a root. -/
lemma read (h : Anchored m root base t) (hfits : Fits root names) (hnames : names ≠ [])
    (hclear : t.Clear names) :
    m.read (root.append names) =
      match t.get? names with
      | none => .error .notFound
      | some (.file data) => .ok data
      | some (.directory _) => .error .isDirectory := by
  unfold Machine.read
  rw [h.look hfits hnames hclear]
  cases t.get? names with
  | none => rfl
  | some child => cases child <;> rfl

/-- What is written below a root. -/
lemma write (h : Anchored m root base t) (hfits : Fits root names) (hnames : names ≠ [])
    (hclear : t.Clear names) {old : ByteArray} (hfile : t.get? names = some (.file old))
    (data : ByteArray) :
    m.write (root.append names) data =
      (.ok (), { m with tree := m.tree.insert (base ++ names) (.file data) }) := by
  unfold Machine.write
  rw [h.look hfits hnames hclear, hfile]
  dsimp only
  rw [h.unlimited]

/-- Whether something is there below a root. -/
lemma isThere (h : Anchored m root base t) (hfits : Fits root names) (hnames : names ≠ [])
    (hclear : t.Clear names) :
    m.isThere (root.append names) = .ok (t.get? names).isSome := by
  unfold Machine.isThere
  rw [h.look hfits hnames hclear]
  cases t.get? names <;> rfl

/-- Whether a directory is there below a root. -/
lemma isDirectory_of_peek (h : Anchored m root base t) (hfits : Fits root names) (hnames : names ≠ [])
    (hclear : t.Clear names) (hdir : t.peek names = some .directory) :
    m.isDirectory (root.append names) = true := by
  obtain ⟨entries, hentries⟩ := Tree.peek_eq_directory_iff.mp hdir
  unfold Machine.isDirectory
  rw [h.look hfits hnames hclear, hentries]
  rfl

section Entries

variable {dir : Location} {name : Name}

/-- An entry that has nothing below it is placed in a directory. -/
lemma create_leaf (h : Anchored m root base t) (hdistinct : t.Distinct)
    (hfits : Fits root (dir ++ [name])) (hdir : t.peek dir = some .directory)
    (hnone : t.peek (dir ++ [name]) = none) {leaf : Tree ByteArray} (hleaf : leaf.Distinct)
    (hbelow : ∀ rest ≠ [], leaf.peek rest = none) :
    ∃ m' t', m.create (root.append (dir ++ [name])) leaf = (.ok (), m') ∧
      Anchored m' root base t' ∧ t'.Distinct ∧ ∀ location,
        t'.peek location =
          if location = dir ++ [name] then some leaf.node else t.peek location := by
  have hne : dir ++ [name] ≠ [] := by simp
  have hparent : t.peek (dir ++ [name]).dropLast = some .directory := by
    rwa [List.dropLast_concat]
  have hcreate := h.create hfits hne (Tree.clear_concat hdir name) leaf
  rw [if_pos hparent, Tree.peek_eq_none_iff.mp hnone] at hcreate
  exact ⟨_, _, hcreate, h.insert hne hparent leaf, hdistinct.insert hleaf _,
    Tree.peek_insert_leaf hdir (fun rest _ => Tree.peek_append_of_none hnone rest) hbelow⟩

/-- A new file is placed in a directory and written. -/
lemma create_write (h : Anchored m root base t) (hdistinct : t.Distinct)
    (hfits : Fits root (dir ++ [name])) (hdir : t.peek dir = some .directory)
    (hnone : t.peek (dir ++ [name]) = none) (data : ByteArray) :
    ∃ m₁ m₂ t₂, m.create (root.append (dir ++ [name])) (.file ByteArray.empty) = (.ok (), m₁) ∧
      m₁.write (root.append (dir ++ [name])) data = (.ok (), m₂) ∧
      Anchored m₂ root base t₂ ∧ t₂.Distinct ∧ ∀ location,
        t₂.peek location =
          if location = dir ++ [name] then some (.file data) else t.peek location := by
  have hne : dir ++ [name] ≠ [] := by simp
  obtain ⟨m₁, t₁, hcreate, h₁, hdistinct₁, hpeek₁⟩ := h.create_leaf hdistinct hfits hdir hnone
    (Tree.distinct_file ByteArray.empty) fun rest => Tree.peek_file_of_ne ByteArray.empty
  have hdir₁ : t₁.peek dir = some .directory := by rw [hpeek₁, if_neg (by simp), hdir]
  have hfile₁ : t₁.peek (dir ++ [name]) = some (.file ByteArray.empty) := by
    rw [hpeek₁, if_pos rfl]
    rfl
  have hwrite := h₁.write hfits hne (Tree.clear_concat hdir₁ name)
    (Tree.peek_eq_file_iff.mp hfile₁) data
  have hpeek₂ := Tree.peek_insert_leaf hdir₁
    (fun rest hrest => Tree.peek_append_of_file hfile₁ hrest) fun rest => Tree.peek_file_of_ne data
  refine ⟨m₁, _, _, hcreate, hwrite, h₁.insert hne (by rwa [List.dropLast_concat]) (.file data),
    hdistinct₁.insert (Tree.distinct_file _) _, fun location => ?_⟩
  rw [hpeek₂, hpeek₁]
  split <;> rfl

end Entries

/-! ## Making directories -/

/-- Making a directory makes exactly the directories that are missing on the way to it. -/
lemma run_makeDirectories (h : Anchored m root base t) (hdistinct : t.Distinct)
    (hfits : Fits root names) (hnames : names ≠ [])
    (hclear : ∀ front content, front <+: names → t.peek front ≠ some (.file content)) :
    ∃ m' t', m.run (makeDirectories (root.append names)) = (.ok (), m') ∧
      Anchored m' root base t' ∧ t'.Distinct ∧ MadeWay t names t' := by
  induction names using List.reverseRecOn with
  | nil => exact absurd rfl hnames
  | append_singleton front name ih =>
    have hway : t.Clear (front ++ [name]) := fun other content hother _ =>
      hclear other content hother
    rw [Machine.run_makeDirectories_concat]
    by_cases hparent : t.peek front = some .directory
    · cases hget : t.get? (front ++ [name]) with
      | some child =>
        have hdir : t.peek (front ++ [name]) = some .directory := by
          cases child with
          | file content =>
            exact absurd (Tree.peek_eq_file_iff.mpr hget) (hclear _ content List.prefix_rfl)
          | directory entries => exact Tree.peek_eq_directory_iff.mpr ⟨entries, hget⟩
        rw [h.create hfits hnames hway, List.dropLast_concat, if_pos hparent, hget]
        dsimp only
        rw [h.isDirectory_of_peek hfits hnames hway hdir]
        exact ⟨m, t, rfl, h, hdistinct, madeWay_self hdir⟩
      | none =>
        obtain ⟨m', t', hcreate, h', hdistinct', hpeek'⟩ := h.create_leaf hdistinct hfits hparent
          (Tree.peek_eq_none_iff.mpr hget) Tree.distinct_empty fun rest => Tree.peek_empty_of_ne
        rw [hcreate]
        exact ⟨m', t', rfl, h', hdistinct', (madeWay_self hparent).concat hpeek'⟩
    · -- the directories above are made first
      rw [h.create hfits hnames hway, List.dropLast_concat, if_neg hparent]
      have hne : front ≠ [] := by
        rintro rfl
        exact hparent (by rw [Tree.peek_nil, h.isDirectory])
      obtain ⟨m', t', hrun, h', hdistinct', hmade⟩ := ih hfits.left hne fun other content hother =>
        hclear other content (hother.trans (List.prefix_append _ _))
      have hparent' : t'.peek front = some .directory := by
        rw [hmade, if_pos List.prefix_rfl]
      have hnone : t'.peek (front ++ [name]) = none := by
        rw [hmade, if_neg fun hlong => by simpa using hlong.length_le]
        by_contra hsome
        exact hparent (Tree.peek_of_append (List.cons_ne_nil name []) hsome)
      obtain ⟨m'', t'', hcreate, h'', hdistinct'', hpeek''⟩ := h'.create_leaf hdistinct' hfits
        hparent' hnone Tree.distinct_empty fun rest => Tree.peek_empty_of_ne
      dsimp only
      rw [hrun]
      dsimp only
      rw [hcreate]
      exact ⟨m'', t'', rfl, h'', hdistinct'', hmade.concat hpeek''⟩

end Anchored

end ClaimCheck.Disk
