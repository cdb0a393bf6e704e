import Mathlib
import ClaimCheck.Proofs.Disk.Mirror

/-!
# Changing an account on disk

A put, the deletion of a blob and the deletion of a container are followed on disk from request to
request.  Each changes the tree in a few turns, and after each turn it is known what is seen at every
location: the directories on the way to a blob are made (`MirrorsExcept.make_way`), a file is placed
or taken away (`MirrorsExcept.set_blob`), an empty directory is removed (`MirrorsExcept.drop_way`),
a container is removed with all it holds (`MirrorsExcept.drop_container`).

Between two turns the directories on the way to the blob may be empty, so they are left out.  At the
end none is: after a put the blob is below all of them (`MirrorsExcept.fill`), and after a deletion
they are removed from the innermost on until one is left that is not empty, which has a file below it
since what it holds was not on the way (`run_prune`).
-/

namespace ClaimCheck.Disk

open Store

/-! ## Turns -/

section Turns

variable {leftOut leftOut' : Location → Prop} {t t' : Tree ByteArray} {s s' : Store.Account}
  {place : Locator} {c last : Name} {way : Location}

/-- More directories may be left out. -/
lemma MirrorsExcept.mono (h : MirrorsExcept leftOut t s)
    (hmono : ∀ location, leftOut location → leftOut' location) : MirrorsExcept leftOut' t s where
  toHolds := h.toHolds
  available := h.available
  distinct := h.distinct
  peek_nil := h.peek_nil
  inhabited c names hnames hleft := h.inhabited c names hnames fun hout => hleft (hmono _ hout)
  named := h.named

/-- No directory on the way to a file needs to be left out. -/
lemma MirrorsExcept.fill {dir rest : Location} {data : ByteArray}
    (h : MirrorsExcept (· <+: dir) t s) (hfile : t.peek (dir ++ rest) = some (.file data)) :
    Mirrors t s where
  toHolds := h.toHolds
  available := h.available
  distinct := h.distinct
  peek_nil := h.peek_nil
  inhabited c names hnames _ hdir := by
    by_cases hout : c :: names <+: dir
    · obtain ⟨more, rfl⟩ := hout
      exact ⟨more ++ rest, data, by rwa [← List.append_assoc]⟩
    · exact h.inhabited c names hnames hout hdir
  named := h.named

/-- Whatever stands in the innermost directory on the way has a file at or below it, since it is not
itself on the way. -/
lemma MirrorsExcept.exists_file (h : MirrorsExcept (· <+: c :: way) t s) {name : Name}
    (hsome : t.peek (c :: way ++ [name]) ≠ none) :
    ∃ rest data, t.peek (c :: way ++ [name] ++ rest) = some (.file data) := by
  cases hnode : t.peek (c :: way ++ [name]) with
  | none => exact absurd hnode hsome
  | some node =>
    cases node with
    | file data => exact ⟨[], data, by rwa [List.append_nil]⟩
    | directory =>
      refine h.inhabited c (way ++ [name]) (by simp) (fun hlong => ?_) hnode
      simpa using hlong.length_le

/-- A container is told from what stands first on the way to it. -/
lemma singleton_prefix_iff {other : Name} {names : Location} : [c] <+: other :: names ↔ c = other := by
  rw [List.cons_prefix_cons, and_iff_left List.nil_prefix]

/-- The containers and blobs when the directories on the way to a blob are made. -/
lemma Holds.make_way (h : Holds t s)
    (hclear : ∀ front data, front <+: place.container.toUTF8 :: way →
      t.peek front ≠ some (.file data))
    (hmade : MadeWay t (place.container.toUTF8 :: way) t') :
    Holds t' (s.createContainer place.container) where
  container_iff c' := by
    have hcreated : ∀ container, (s.createContainer place.container).hasContainer container ↔
        container = place.container ∨ s.hasContainer container := by
      intro container
      rw [Store.Account.hasContainer_eq, Store.Account.get?_createContainer]
      by_cases hsame : container = place.container
      · simp [hsame]
      · simp [hsame, Store.Account.hasContainer_eq]
    rw [hmade]
    by_cases hsame : c' = place.container.toUTF8
    · rw [if_pos (singleton_prefix_iff.mpr hsame), eq_self_iff_true, true_iff]
      exact ⟨place.container, hsame.symm, (hcreated _).mpr (.inl rfl)⟩
    · rw [if_neg (singleton_prefix_iff.not.mpr hsame), h.container_iff]
      refine exists_congr fun container => and_congr_right fun hbytes => ?_
      rw [hcreated, or_iff_right]
      rintro rfl
      exact hsame hbytes.symm
  file_iff c' names data := by
    have hsame : t'.peek (c' :: names) = some (.file data) ↔
        t.peek (c' :: names) = some (.file data) := by
      rw [hmade]
      split
      · next hway => exact iff_of_false (fun h => by cases h) (hclear _ data hway)
      · rfl
    rw [hsame, h.file_iff]
    simp only [Store.Account.blob?_createContainer]

/-- The directories on the way to a blob are made, and its container with them. -/
lemma MirrorsExcept.make_way (h : Mirrors t s) (hdistinct : t'.Distinct)
    (hclear : ∀ front data, front <+: place.container.toUTF8 :: way →
      t.peek front ≠ some (.file data))
    (hmade : MadeWay t (place.container.toUTF8 :: way) t') :
    MirrorsExcept (· <+: place.container.toUTF8 :: way) t' (s.createContainer place.container) where
  toHolds := h.toHolds.make_way hclear hmade
  available := h.available
  distinct := hdistinct
  peek_nil := by rw [hmade, if_pos List.nil_prefix]
  inhabited c' names hnames hout hdir := by
    rw [hmade, if_neg hout] at hdir
    obtain ⟨rest, data, hfile⟩ := h.inhabited c' names hnames id hdir
    refine ⟨rest, data, ?_⟩
    rw [hmade, if_neg fun hlong => hout ((List.prefix_append _ rest).trans hlong), hfile]
  named other data hsome := by
    rw [Store.Account.blob?_createContainer] at hsome
    exact h.named other data hsome

/-- When the end of a way is changed into something that is no directory, every directory that is not
above it still has a file below it. -/
lemma MirrorsExcept.exists_file_of_changed (h : MirrorsExcept (· <+: c :: way ++ [last]) t s)
    {new : Option (Node ByteArray)} (hnew : new ≠ some .directory)
    (hpeek : ∀ location, t'.peek location =
      if location = c :: way ++ [last] then new else t.peek location)
    {other : Name} {names : Location} (hnames : names ≠ []) (hout : ¬ other :: names <+: c :: way)
    (hdir : t'.peek (other :: names) = some .directory) :
    ∃ rest data, t'.peek (other :: names ++ rest) = some (.file data) := by
  have hlocation : other :: names ≠ c :: way ++ [last] := by
    intro heq
    rw [hpeek, if_pos heq] at hdir
    exact hnew hdir
  rw [hpeek, if_neg hlocation] at hdir
  have hout' : ¬ other :: names <+: c :: way ++ [last] :=
    fun hstart => (List.prefix_concat_iff.mp hstart).elim hlocation hout
  obtain ⟨rest, data, hfile⟩ := h.inhabited other names hnames hout' hdir
  have hlong : other :: names ++ rest ≠ c :: way ++ [last] := fun heq => hout' ⟨rest, heq⟩
  exact ⟨rest, data, by rw [hpeek, if_neg hlong, hfile]⟩

/-- The containers and blobs when the file of a blob is placed or taken away. -/
lemma Holds.set_blob (h : Holds t s)
    (hsegments : Account.segments place.name = .ok (way ++ [last])) (content : Option ByteArray)
    (hpeek : ∀ location, t'.peek location =
      if location = place.container.toUTF8 :: way ++ [last] then content.map .file
      else t.peek location)
    (hcontainer : ∀ container, s'.hasContainer container = s.hasContainer container)
    (hblob : ∀ other, s'.blob? other = if other = place then content else s.blob? other) :
    Holds t' s' where
  container_iff c := by
    have hshort : [c] ≠ place.container.toUTF8 :: way ++ [last] := by simp
    rw [hpeek, if_neg hshort, h.container_iff]
    simp only [hcontainer]
  file_iff c names data := by
    rw [hpeek, List.cons_append]
    by_cases hlocation : c :: names = place.container.toUTF8 :: (way ++ [last])
    · obtain ⟨rfl, rfl⟩ := List.cons.inj hlocation
      have hcontent : content.map Node.file = some (.file data) ↔ content = some data := by
        rw [Option.map_eq_some_iff]
        simp
      rw [if_pos rfl, hcontent]
      constructor
      · exact fun hdata => ⟨place, rfl, hsegments, by rw [hblob, if_pos rfl, hdata]⟩
      · rintro ⟨other, hbytes, hother, hdata⟩
        have hplace : other = place := Locator.ext (toUTF8_injective hbytes)
          (eq_of_segments hother hsegments)
        rwa [hblob, if_pos hplace] at hdata
    · rw [if_neg hlocation, h.file_iff]
      refine exists_congr fun other => and_congr_right fun hbytes =>
        and_congr_right fun hother => ?_
      rw [hblob, if_neg]
      rintro rfl
      rw [hsegments, Except.ok.injEq] at hother
      exact hlocation (by rw [← hbytes, hother])

/-- The file of a blob is placed or taken away. -/
lemma MirrorsExcept.set_blob (h : MirrorsExcept (· <+: place.container.toUTF8 :: way) t s)
    (hsegments : Account.segments place.name = .ok (way ++ [last])) (hdistinct : t'.Distinct)
    (content : Option ByteArray)
    (hpeek : ∀ location, t'.peek location =
      if location = place.container.toUTF8 :: way ++ [last] then content.map .file
      else t.peek location)
    (havailable : s'.isUnavailable = s.isUnavailable)
    (hcontainer : ∀ container, s'.hasContainer container = s.hasContainer container)
    (hblob : ∀ other, s'.blob? other = if other = place then content else s.blob? other) :
    MirrorsExcept (· <+: place.container.toUTF8 :: way) t' s' where
  toHolds := h.toHolds.set_blob hsegments content hpeek hcontainer hblob
  available := havailable.trans h.available
  distinct := hdistinct
  peek_nil := by rw [hpeek, if_neg (by simp), h.peek_nil]
  inhabited c names hnames hout hdir := by
    have hnew : content.map Node.file ≠ some .directory := by cases content <;> simp
    have hless := h.mono fun location (hstart : location <+: place.container.toUTF8 :: way) =>
      hstart.trans (List.prefix_append _ [last])
    exact hless.exists_file_of_changed hnew hpeek hnames hout hdir
  named other data hsome := by
    rw [hblob] at hsome
    split at hsome
    · next heq => exact ⟨_, heq ▸ hsegments⟩
    · exact h.named other data hsome

/-- The innermost directory on the way, which is empty, is removed. -/
lemma MirrorsExcept.drop_way (h : MirrorsExcept (· <+: c :: way ++ [last]) t s)
    (hdistinct : t'.Distinct) (hdir : t.peek (c :: way ++ [last]) = some .directory)
    (hpeek : ∀ location, t'.peek location =
      if location = c :: way ++ [last] then none else t.peek location) :
    MirrorsExcept (· <+: c :: way) t' s where
  container_iff other := by
    have hshort : [other] ≠ c :: way ++ [last] := by simp
    rw [hpeek, if_neg hshort, h.container_iff]
  file_iff other names data := by
    rw [hpeek, ← h.file_iff]
    split
    · next hlocation =>
      rw [hlocation, hdir]
      exact iff_of_false (fun h => by cases h) fun h => by cases h
    · rfl
  available := h.available
  distinct := hdistinct
  peek_nil := by rw [hpeek, if_neg (by simp), h.peek_nil]
  inhabited _ _ hnames hout hdir' :=
    h.exists_file_of_changed (Option.some_ne_none _).symm hpeek hnames hout hdir'
  named := h.named

/-- The containers and blobs when a container is removed with all it holds. -/
lemma Holds.drop_container {container : String} (h : Holds t s) (havailable : s.isUnavailable = false)
    (hpeek : ∀ location, t'.peek location =
      if [container.toUTF8] <+: location then none else t.peek location) :
    Holds t' (s.answer (.deleteContainer container)).2 where
  container_iff c := by
    have hget := Store.Account.get?_answer_deleteContainer havailable container
    rw [hpeek]
    by_cases hsame : container.toUTF8 = c
    · rw [if_pos (singleton_prefix_iff.mpr hsame)]
      refine iff_of_false (fun h => by cases h) ?_
      rintro ⟨other, hbytes, hsome⟩
      rw [Store.Account.hasContainer_eq, hget,
        if_pos (toUTF8_injective (hbytes.trans hsame.symm))] at hsome
      cases hsome
    · rw [if_neg (singleton_prefix_iff.not.mpr hsame), h.container_iff]
      refine exists_congr fun other => and_congr_right fun hbytes => ?_
      rw [Store.Account.hasContainer_eq, Store.Account.hasContainer_eq, hget, if_neg]
      rintro rfl
      exact hsame hbytes
  file_iff c names data := by
    have hblob := Store.Account.blob?_answer_deleteContainer havailable container
    rw [hpeek]
    by_cases hsame : container.toUTF8 = c
    · rw [if_pos (singleton_prefix_iff.mpr hsame)]
      refine iff_of_false (fun h => by cases h) ?_
      rintro ⟨other, hbytes, -, hsome⟩
      rw [hblob, if_pos (toUTF8_injective (hbytes.trans hsame.symm))] at hsome
      cases hsome
    · rw [if_neg (singleton_prefix_iff.not.mpr hsame), h.file_iff]
      refine exists_congr fun other => and_congr_right fun hbytes => and_congr_right fun _ => ?_
      rw [hblob, if_neg]
      intro heq
      exact hsame (heq ▸ hbytes)

/-- A container is removed with all it holds. -/
lemma MirrorsExcept.drop_container {container : String} (h : Mirrors t s) (hdistinct : t'.Distinct)
    (hpeek : ∀ location, t'.peek location =
      if [container.toUTF8] <+: location then none else t.peek location) :
    Mirrors t' (s.answer (.deleteContainer container)).2 where
  toHolds := h.toHolds.drop_container h.available hpeek
  available := (Store.Account.isUnavailable_answer s _).trans h.available
  distinct := hdistinct
  peek_nil := by rw [hpeek, if_neg (by simp), h.peek_nil]
  inhabited c names hnames _ hdir := by
    rw [hpeek] at hdir
    split at hdir
    · cases hdir
    · next hout =>
      obtain ⟨rest, data, hfile⟩ := h.inhabited c names hnames id hdir
      have hlong : ¬ [container.toUTF8] <+: c :: names ++ rest := by
        rw [singleton_prefix_iff] at hout
        rwa [List.cons_append, singleton_prefix_iff]
      exact ⟨rest, data, by rw [hpeek, if_neg hlong, hfile]⟩
  named other data hsome := by
    rw [Store.Account.blob?_answer_deleteContainer h.available] at hsome
    split at hsome
    · cases hsome
    · exact h.named other data hsome

end Turns

/-! ## Calls -/

section Calls

variable {m : Machine} {a : Account} {base : Location} {t t' : Tree ByteArray} {s : Store.Account}
  {place : Locator} {names : Location} {container : String} {c : Name}

/-- A put ends where the directories on the way cannot be made. -/
lemma run_put_of_not_made (hcontainer : isEntryName place.container = true)
    (hsegments : Account.segments place.name = .ok names) {fault : Fault} {m₁ : Machine}
    (hmake : m.run (makeDirectories (a.root.append (place.container.toUTF8 :: names.dropLast))) =
      (.error fault, m₁)) (data : ByteArray) :
    m.run (a.put place data).run = (.error (.disk fault), m₁) := by
  unfold Account.put
  rw [Machine.run_attempt_bind, Machine.run_liftM, containerPath_eq a hcontainer]
  dsimp only
  rw [Machine.run_attempt_bind, Machine.run_liftM, hsegments]
  dsimp only
  rw [append_container, append_container, Machine.run_attempt_bind, Machine.run_wrapping, hmake]
  rfl

/-- A put makes the directories on the way and then asks for a new file. -/
lemma run_put_of_made (hcontainer : isEntryName place.container = true)
    (hsegments : Account.segments place.name = .ok names) {m₁ : Machine}
    (hmake : m.run (makeDirectories (a.root.append (place.container.toUTF8 :: names.dropLast))) =
      (.ok (), m₁)) (data : ByteArray) :
    m.run (a.put place data).run =
      match m₁.create (a.root.append (place.container.toUTF8 :: names)) (.file ByteArray.empty) with
      | (.error fault, m₂) =>
        (.error (if fault = .alreadyExists then .blobExists place else .disk fault), m₂)
      | (.ok (), m₂) =>
        match m₂.write (a.root.append (place.container.toUTF8 :: names)) data with
        | (.ok (), m₃) => (.ok (), m₃)
        | (.error fault, m₃) => (.error (.disk fault),
            (m₃.takeAway (a.root.append (place.container.toUTF8 :: names))
              Machine.againstRemove).2) := by
  have hanswer : Machine.answer
      (.createNew (a.root.append (place.container.toUTF8 :: names))) m₁ =
        m₁.create (a.root.append (place.container.toUTF8 :: names)) (.file ByteArray.empty) := rfl
  unfold Account.put
  rw [Machine.run_attempt_bind, Machine.run_liftM, containerPath_eq a hcontainer]
  dsimp only
  rw [Machine.run_attempt_bind, Machine.run_liftM, hsegments]
  dsimp only
  rw [append_container, append_container, Machine.run_attempt_bind, Machine.run_wrapping, hmake]
  dsimp only [Except.mapError]
  rw [Machine.run_attempt_bind, Machine.run_wrapping, Machine.run_perform, hanswer]
  rcases m₁.create _ _ with ⟨fault | ⟨⟩, m₂⟩
  · rfl
  · dsimp only [Except.mapError]
    rw [Machine.run_wrapping, Machine.run_bind, Machine.run_perform]
    have hwrite : Machine.answer
        (.write (a.root.append (place.container.toUTF8 :: names)) data) m₂ =
          m₂.write (a.root.append (place.container.toUTF8 :: names)) data := rfl
    rw [hwrite]
    rcases m₂.write _ _ with ⟨fault | ⟨⟩, m₃⟩ <;> rfl

/-- A blob is put alike. -/
lemma run_put (h : Anchored m a.root base t) (hm : Mirrors t s)
    (hreaches : Reaches a.root s place names) (data : ByteArray) :
    ∃ m' t', m.run (a.put place data).run = ((s.answer (.put place data)).1, m') ∧
      Anchored m' a.root base t' ∧ Mirrors t' (s.answer (.put place data)).2 := by
  obtain ⟨way, last, hnames⟩ :=
    (List.eq_nil_or_concat names).resolve_left (segments_ne_nil hreaches.segments)
  rw [List.concat_eq_append] at hnames
  subst hnames
  set c := place.container.toUTF8 with hc
  have hfits : Fits a.root (c :: way ++ [last]) := hreaches.fits
  have hne : c :: way ++ [last] ≠ [] := List.cons_ne_nil _ _
  have hlong : ¬ c :: way ++ [last] <+: c :: way := fun hstart => by
    simpa using hstart.length_le
  have hway : ∀ front content, front <+: c :: way → t.peek front ≠ some (.file content) := by
    intro front content hfront
    refine hreaches.clear hm front content (hfront.trans (List.prefix_append (c :: way) [last])) ?_
    rintro rfl
    exact hlong hfront
  -- the directories on the way are made
  obtain ⟨m₁, t₁, hmake, h₁, hdistinct₁, hmade⟩ := h.run_makeDirectories hm.distinct
    hfits.left (List.cons_ne_nil c way) hway
  have hparent₁ : t₁.peek (c :: way) = some .directory := by rw [hmade, if_pos List.prefix_rfl]
  have hm₁ : MirrorsExcept (· <+: c :: way) t₁
      ((s.record (.put place data)).createContainer place.container) :=
    MirrorsExcept.make_way (hm.of_get?_eq rfl fun _ => rfl) hdistinct₁ hway hmade
  have hlocation₁ : t₁.peek (c :: way ++ [last]) = (s.blob? place).map .file := by
    rw [hmade, if_neg hlong]
    exact hreaches.peek hm
  have hrun := run_put_of_made hreaches.container hreaches.segments
    (by rwa [List.dropLast_concat]) data
  rw [← List.cons_append] at hrun
  cases hblob : s.blob? place with
  | some old =>
    rw [hblob] at hlocation₁
    rw [h₁.create hfits hne (Tree.clear_concat hparent₁ last), List.dropLast_concat,
      if_pos hparent₁, Tree.peek_eq_file_iff.mp hlocation₁] at hrun
    rw [Store.Account.answer_put_of_taken hm.available hblob]
    exact ⟨m₁, t₁, hrun, h₁, hm₁.fill hlocation₁⟩
  | none =>
    rw [hblob] at hlocation₁
    obtain ⟨m₂, m₃, t₃, hcreate, hwrite, h₃, hdistinct₃, hpeek₃⟩ :=
      h₁.create_write hdistinct₁ hfits hparent₁ hlocation₁ data
    rw [hcreate] at hrun
    dsimp only at hrun
    rw [hwrite] at hrun
    rw [Store.Account.answer_put_of_free hm.available hblob]
    have hm₃ : MirrorsExcept (· <+: c :: way) t₃
        (((s.record (.put place data)).createContainer place.container).seed place data) := by
      refine hm₁.set_blob hreaches.segments hdistinct₃ (some data) hpeek₃ rfl ?_
        (Store.Account.blob?_seed _ place data)
      intro container
      rw [Store.Account.hasContainer_eq, Store.Account.hasContainer_eq, Store.Account.get?_seed,
        Store.Account.get?_createContainer]
      split <;> rfl
    have hfile₃ : t₃.peek (c :: way ++ [last]) = some (.file data) := by rw [hpeek₃, if_pos rfl]
    exact ⟨m₃, t₃, hrun, h₃, hm₃.fill hfile₃⟩

/-- Removing directories stops at the first one that is not removed. -/
lemma run_prune_cons (m : Machine) (path : Path) (name : Name) (up : List Name) :
    m.run (prune path (name :: up)) =
      match m.takeAway (path.append (name :: up).reverse) Machine.againstRemoveDirectory with
      | (.ok (), m') => m'.run (prune path up)
      | (.error _, m') => ((), m') := by
  have hanswer : Machine.answer (.removeDirectory (path.append (name :: up).reverse)) m =
      m.takeAway (path.append (name :: up).reverse) Machine.againstRemoveDirectory := rfl
  rw [prune, Machine.run_bind, Machine.run_perform, hanswer]
  rcases m.takeAway _ _ with ⟨fault | ⟨⟩, m'⟩ <;> rfl

/-- The directories that a deleted blob leaves empty are removed, and no other one is. -/
lemma run_prune {root : Path} {way : Location} (h : Anchored m root base t)
    (hm : MirrorsExcept (· <+: c :: way) t s) (hdir : t.peek (c :: way) = some .directory)
    (hfits : Fits root (c :: way)) :
    ∃ m' t', m.run (prune (root.append [c]) way.reverse) = ((), m') ∧
      Anchored m' root base t' ∧ Mirrors t' s := by
  induction way using List.reverseRecOn generalizing m t with
  | nil =>
    refine ⟨m, t, rfl, h, hm.toHolds, hm.available, hm.distinct, hm.peek_nil, ?_, hm.named⟩
    intro c' names hnames _ hdir'
    refine hm.inhabited c' names hnames (fun hstart => ?_) hdir'
    rw [List.cons_prefix_cons, List.prefix_nil] at hstart
    exact hnames hstart.2
  | append_singleton way last ih =>
    rw [← List.cons_append] at hdir hfits
    obtain ⟨entries, hentries⟩ := Tree.peek_eq_directory_iff.mp hdir
    have hsome : t.peek (c :: way ++ [last]) ≠ none := by
      rw [hdir]
      exact Option.some_ne_none _
    have hne : c :: way ++ [last] ≠ [] := List.cons_ne_nil _ _
    rw [List.reverse_append, List.reverse_singleton, List.singleton_append, run_prune_cons,
      List.reverse_cons, List.reverse_reverse, append_container, ← List.cons_append,
      h.takeAway hfits hne (Tree.clear_of_peek hsome) Machine.againstRemoveDirectory, hentries]
    cases entries with
    | nil =>
      -- it is empty, so it goes and the next one is tried
      have hparent : t.peek (c :: way) = some .directory :=
        Tree.peek_of_append (List.cons_ne_nil last []) hsome
      have hpeek' : ∀ location, (t.erase (c :: way ++ [last])).peek location =
          if location = c :: way ++ [last] then none else t.peek location :=
        Tree.peek_erase_leaf hparent fun rest => Tree.peek_append_of_empty hentries
      refine ih (h.erase hne (by rwa [List.dropLast_concat]))
        (hm.drop_way (hm.distinct.erase _) hdir hpeek') ?_ hfits.left
      rw [hpeek', if_neg (by simp), hparent]
    | cons entry entries =>
      -- what it holds was not on the way
      obtain ⟨name, hname⟩ : ∃ name, t.peek (c :: way ++ [last] ++ [name]) ≠ none := by
        by_contra hnone
        refine absurd ((Tree.entries_eq_nil_iff hentries).mpr fun name => ?_) (List.cons_ne_nil _ _)
        exact not_not.mp (not_exists.mp hnone name)
      obtain ⟨rest, data, hfile⟩ := hm.exists_file hname
      exact ⟨m, t, rfl, h, hm.fill (by rwa [List.append_assoc] at hfile)⟩

/-- When the file of a blob is gone, so are the directories that it leaves empty. -/
lemma Reaches.run_prune {way : Location} {last : Name} {data : ByteArray}
    (hreaches : Reaches a.root s place (way ++ [last])) (h : Anchored m a.root base t)
    (hm : Mirrors t s) (hblob : s.blob? place = some data) :
    ∃ m' t', ({ m with tree := m.tree.erase (base ++ (place.container.toUTF8 :: way ++ [last])) } :
        Machine).run (prune (a.root.append [place.container.toUTF8]) way.reverse) = ((), m') ∧
      Anchored m' a.root base t' ∧ Mirrors t' (s.answer (.deleteBlob place)).2 := by
  set c := place.container.toUTF8 with hc
  have hfits : Fits a.root (c :: way ++ [last]) := hreaches.fits
  have hfile : t.peek (c :: way ++ [last]) = some (.file data) :=
    (hm.peek_eq_file_iff hreaches.segments).mpr hblob
  have hparent : t.peek (c :: way) = some .directory :=
    Tree.peek_of_append (List.cons_ne_nil last []) (by
      rw [hfile]
      exact Option.some_ne_none _)
  have hpeek' : ∀ location, (t.erase (c :: way ++ [last])).peek location =
      if location = c :: way ++ [last] then none else t.peek location :=
    Tree.peek_erase_leaf hparent fun rest hrest => Tree.peek_append_of_file hfile hrest
  have hne : c :: way ++ [last] ≠ [] := List.cons_ne_nil _ _
  have h' := h.erase hne (by rwa [List.dropLast_concat])
  have hm' : MirrorsExcept (· <+: c :: way) (t.erase (c :: way ++ [last]))
      (s.answer (.deleteBlob place)).2 := by
    refine (hm.mono fun _ => False.elim).set_blob hreaches.segments (hm.distinct.erase _) none
      hpeek' (Store.Account.isUnavailable_answer s _) (fun container => ?_)
      (Store.Account.blob?_answer_deleteBlob hm.available place)
    rw [Store.Account.hasContainer_eq, Store.Account.hasContainer_eq,
      Store.Account.get?_answer_deleteBlob hm.available]
    split
    · exact Option.isSome_map
    · rfl
  have hdir : (t.erase (c :: way ++ [last])).peek (c :: way) = some .directory := by
    rw [hpeek', if_neg (by simp), hparent]
  exact Disk.run_prune h' hm' hdir hfits.left

/-- A blob is deleted alike. -/
lemma run_deleteBlob (h : Anchored m a.root base t) (hm : Mirrors t s)
    (hreaches : Reaches a.root s place names) :
    ∃ m' t', m.run (a.deleteBlob place).run = ((s.answer (.deleteBlob place)).1, m') ∧
      Anchored m' a.root base t' ∧ Mirrors t' (s.answer (.deleteBlob place)).2 := by
  obtain ⟨way, last, hnames⟩ :=
    (List.eq_nil_or_concat names).resolve_left (segments_ne_nil hreaches.segments)
  rw [List.concat_eq_append] at hnames
  subst hnames
  have hfits : Fits a.root (place.container.toUTF8 :: way ++ [last]) := hreaches.fits
  have hget : t.get? (place.container.toUTF8 :: way ++ [last]) = (s.blob? place).map .file :=
    hreaches.get? hm
  have hcontainer := run_presentContainer h hm hreaches.container hreaches.fits.container
  -- where there is no blob, nothing changes
  have hmissing : s.blob? place = none → Mirrors t (s.answer (.deleteBlob place)).2 := fun hnone =>
    hm.of_get?_eq (Store.Account.isUnavailable_answer s _)
      (Store.Account.get?_answer_deleteBlob_of_missing hm.available hnone)
  have hanswer : Machine.answer
      (.remove (a.root.append (place.container.toUTF8 :: way ++ [last]))) m =
        m.takeAway (a.root.append (place.container.toUTF8 :: way ++ [last]))
          Machine.againstRemove := rfl
  unfold Account.deleteBlob
  rw [Machine.run_attempt_bind, hcontainer, Store.Account.answer_deleteBlob hm.available,
    Store.Account.hasContainer_eq]
  cases hblobs : s.containers.get? place.container with
  | none => exact ⟨m, t, rfl, h, hmissing (by rw [Store.Account.blob?_eq, hblobs]; rfl)⟩
  | some blobs =>
    have hplace : s.blob? place = blobs.get? place.name := by
      rw [Store.Account.blob?_eq, hblobs, Option.bind_some]
    rw [Option.isSome_some, if_pos rfl]
    dsimp only
    rw [Machine.run_attempt_bind, Machine.run_liftM, hreaches.segments]
    dsimp only
    rw [Machine.run_attempt_bind, Machine.run_wrapping, Machine.run_perform, append_container,
      ← List.cons_append, hanswer, h.takeAway hfits (List.cons_ne_nil _ _) (hreaches.clear hm), hget,
      hplace]
    cases hblob : blobs.get? place.name with
    | none => exact ⟨m, t, rfl, h, hmissing (hplace.trans hblob)⟩
    | some data =>
      obtain ⟨m', t', hrun, h', hm'⟩ := hreaches.run_prune h hm (hplace.trans hblob)
      refine ⟨m', t', ?_, h', hm'⟩
      dsimp only [Option.map_some, Machine.againstRemove, Except.mapError]
      rw [List.dropLast_concat, Machine.run_lift, hrun]

/-- A container is deleted alike. -/
lemma run_deleteContainer (h : Anchored m a.root base t) (hm : Mirrors t s)
    (hname : isEntryName container = true) (hfits : Fits a.root [container.toUTF8]) :
    ∃ m' t', m.run (a.deleteContainer container).run =
        ((s.answer (.deleteContainer container)).1, m') ∧
      Anchored m' a.root base t' ∧ Mirrors t' (s.answer (.deleteContainer container)).2 := by
  have hanswer : Machine.answer (.removeTree (a.root.append [container.toUTF8])) m =
      m.takeAway (a.root.append [container.toUTF8]) Machine.againstRemoveTree := rfl
  have hne : [container.toUTF8] ≠ ([] : Location) := List.cons_ne_nil _ _
  unfold Account.deleteContainer
  rw [Machine.run_attempt_bind, Machine.run_liftM, containerPath_eq a hname]
  dsimp only
  rw [Machine.run_wrapping, Machine.run_perform, hanswer,
    h.takeAway hfits hne (hm.clear_container _), Store.Account.answer_deleteContainer hm.available]
  have hpeek := hm.peek_container container
  rw [Store.Account.hasContainer_eq] at hpeek
  cases hblobs : s.containers.get? container with
  | none =>
    rw [hblobs] at hpeek
    rw [Tree.peek_eq_none_iff.mp hpeek]
    refine ⟨m, t, rfl, h, hm.of_get?_eq (Store.Account.isUnavailable_answer s _) fun other => ?_⟩
    rw [Store.Account.get?_answer_deleteContainer hm.available]
    split
    · next hsame => rw [hsame, hblobs]
    · rfl
  | some blobs =>
    rw [hblobs] at hpeek
    obtain ⟨entries, hdir⟩ := Tree.peek_eq_directory_iff.mp hpeek
    rw [hdir]
    refine ⟨_, _, rfl, h.erase hne hm.peek_nil, hm.drop_container (hm.distinct.erase _) ?_⟩
    exact Tree.peek_erase hm.peek_nil container.toUTF8

end Calls

end ClaimCheck.Disk
