import Mathlib
import ClaimCheck.Disk.Tree

/-!
# Trees by what stands at each location

What a directory tree holds is told here by what is seen at each location (`Tree.peek`): nothing, a
directory, or a file with its content.  Placing a tree somewhere or taking one away changes what is
seen there and below, and nowhere else (`Tree.peek_insert`, `Tree.peek_erase`), so later files
reason about trees without looking at their lists of entries.

The list of all files needs one thing more, that no two entries of a directory share a name
(`Tree.Distinct`): then every file is listed once, at the location where it is seen
(`Tree.mem_files_iff`, `Tree.Distinct.nodup_files`).
-/

namespace ClaimCheck.Disk

variable {α : Type}

/-- What is seen at a location: a file with its content, or a directory. -/
inductive Node (α : Type) where
  | file (content : α)
  | directory
deriving DecidableEq

namespace Tree

/-- What is seen of a tree from outside. -/
def node : Tree α → Node α
  | file content => .file content
  | directory _ => .directory

/-- What is seen at a location, if something is there. -/
def peek (t : Tree α) (location : Location) : Option (Node α) := (t.get? location).map node

/-! ## Entries -/

/-- The first entry with the name is found. -/
lemma child?_cons (entry : Name × Tree α) (rest : Entries α) (name : Name) :
    child? (entry :: rest) name = if entry.1 = name then some entry.2 else child? rest name := by
  unfold child?
  rw [List.find?_cons]
  by_cases h : entry.1 = name <;> simp [h]

/-- An entry that is found is one of the entries. -/
lemma mem_of_child? {entries : Entries α} {name : Name} {t : Tree α}
    (h : child? entries name = some t) : (name, t) ∈ entries := by
  induction entries with
  | nil => cases h
  | cons entry rest ih =>
    rw [child?_cons] at h
    split at h
    · next hname =>
      cases h
      rw [← hname]
      exact List.mem_cons_self
    · exact List.mem_cons_of_mem _ (ih h)

/-- Where no two entries share a name, every entry is found. -/
lemma child?_of_mem {entries : Entries α} {name : Name} {t : Tree α}
    (hdistinct : (entries.map Prod.fst).Nodup) (h : (name, t) ∈ entries) :
    child? entries name = some t := by
  induction entries with
  | nil => cases h
  | cons entry rest ih =>
    rw [List.map_cons, List.nodup_cons] at hdistinct
    rw [child?_cons]
    rcases List.mem_cons.mp h with rfl | hmem
    · rw [if_pos rfl]
    · have hne : entry.1 ≠ name := by
        rintro rfl
        exact hdistinct.1 (List.mem_map.mpr ⟨_, hmem, rfl⟩)
      rw [if_neg hne]
      exact ih hdistinct.2 hmem

/-- Nothing is found under any name exactly when there are no entries. -/
lemma child?_eq_none_iff {entries : Entries α} :
    (∀ name, child? entries name = none) ↔ entries = [] := by
  constructor
  · intro h
    cases entries with
    | nil => rfl
    | cons entry rest =>
      have := h entry.1
      rw [child?_cons, if_pos rfl] at this
      cases this
  · rintro rfl name
    rfl

/-- The entries after the one of a name was changed. -/
lemma child?_map (change : Tree α → Tree α) (entries : Entries α) (name other : Name) :
    child? (entries.map fun entry =>
        if entry.1 = name then (entry.1, change entry.2) else entry) other =
      if other = name then (child? entries other).map change else child? entries other := by
  induction entries with
  | nil =>
    split <;> rfl
  | cons entry rest ih =>
    rw [List.map_cons, child?_cons, child?_cons, ih]
    by_cases hname : entry.1 = name <;> by_cases hother : entry.1 = other <;>
      by_cases hsame : other = name <;> simp_all

/-- The entries that are kept when one name is taken away. -/
lemma child?_drop (entries : Entries α) (name other : Name) :
    child? (drop name entries) other = if other = name then none else child? entries other := by
  unfold drop
  induction entries with
  | nil => split <;> rfl
  | cons entry rest ih =>
    rw [List.filter_cons]
    by_cases hname : entry.1 = name
    · rw [if_neg (by simpa using hname), ih, child?_cons]
      by_cases hother : other = name
      · rw [if_pos hother, if_pos hother]
      · have hne : entry.1 ≠ other := fun h => hother (h.symm.trans hname)
        rw [if_neg hother, if_neg hother, if_neg hne]
    · rw [if_pos (by simpa using hname), child?_cons, ih, child?_cons]
      by_cases hother : entry.1 = other
      · have hne : other ≠ name := fun h => hname (hother.trans h)
        rw [if_pos hother, if_neg hne, if_pos hother]
      · rw [if_neg hother, if_neg hother]

/-- An entry behind others is found where they have none of its name. -/
lemma child?_append (entries more : Entries α) (name : Name) :
    child? (entries ++ more) name = (child? entries name).or (child? more name) := by
  induction entries with
  | nil => rfl
  | cons entry rest ih =>
    rw [List.cons_append, child?_cons, child?_cons, ih]
    split <;> rfl

/-- The entries after one was placed. -/
lemma child?_place (name : Name) (t : Tree α) (entries : Entries α) (other : Name) :
    child? (place name t entries) other = if other = name then some t else child? entries other := by
  have hplace : place name t entries = drop name entries ++ [(name, t)] := rfl
  rw [hplace, child?_append, child?_drop, child?_cons]
  by_cases h : other = name
  · simp [h]
  · have hnone : child? ([] : Entries α) other = none := rfl
    simp [h, Ne.symm h, hnone]

/-! ## Looking -/

/-- The tree itself is at the empty location. -/
@[simp] lemma get?_nil (t : Tree α) : t.get? [] = some t := by
  cases t <;> rfl

/-- Nothing is below a file. -/
@[simp] lemma get?_file_cons (content : α) (name : Name) (rest : Location) :
    (file content).get? (name :: rest) = none := rfl

/-- What is below a directory is below one of its entries. -/
lemma get?_directory_cons (entries : Entries α) (name : Name) (rest : Location) :
    (directory entries).get? (name :: rest) = (child? entries name).bind (·.get? rest) := rfl

/-- What stands in a directory is the entry of the name. -/
lemma get?_directory_singleton (entries : Entries α) (name : Name) :
    (directory entries).get? [name] = child? entries name := by
  rw [get?_directory_cons]
  cases child? entries name with
  | none => rfl
  | some child => exact get?_nil child

/-- A location may be walked in two parts. -/
lemma get?_append (t : Tree α) (location rest : Location) :
    t.get? (location ++ rest) = (t.get? location).bind (·.get? rest) := by
  induction location generalizing t with
  | nil => rw [List.nil_append, get?_nil, Option.bind_some]
  | cons name location ih =>
    cases t with
    | file content => rfl
    | directory entries =>
      rw [List.cons_append, get?_directory_cons, get?_directory_cons, Option.bind_assoc]
      congr 1
      funext child
      exact ih child

/-- What is seen of a tree at its own location. -/
@[simp] lemma peek_nil (t : Tree α) : t.peek [] = some t.node := by
  unfold peek
  rw [get?_nil, Option.map_some]

/-- What is seen in two parts. -/
lemma peek_append (t : Tree α) (location rest : Location) :
    t.peek (location ++ rest) = (t.get? location).bind (·.peek rest) := by
  unfold peek
  rw [get?_append, Option.map_bind]
  rfl

/-- Nothing is seen where no tree is. -/
lemma peek_eq_none_iff {t : Tree α} {location : Location} :
    t.peek location = none ↔ t.get? location = none := Option.map_eq_none_iff

/-- A directory is seen where a directory is. -/
lemma peek_eq_directory_iff {t : Tree α} {location : Location} :
    t.peek location = some .directory ↔ ∃ entries, t.get? location = some (directory entries) := by
  unfold peek
  rw [Option.map_eq_some_iff]
  constructor
  · rintro ⟨child, hget, hnode⟩
    cases child with
    | file content => cases hnode
    | directory entries => exact ⟨entries, hget⟩
  · rintro ⟨entries, hget⟩
    exact ⟨_, hget, rfl⟩

/-- A file is seen where a file is. -/
lemma peek_eq_file_iff {t : Tree α} {location : Location} {content : α} :
    t.peek location = some (.file content) ↔ t.get? location = some (file content) := by
  unfold peek
  rw [Option.map_eq_some_iff]
  constructor
  · rintro ⟨child, hget, hnode⟩
    cases child with
    | file other =>
      cases hnode
      exact hget
    | directory entries => cases hnode
  · exact fun hget => ⟨_, hget, rfl⟩

/-- Nothing is seen below a location where nothing is. -/
lemma peek_append_of_none {t : Tree α} {location : Location} (h : t.peek location = none)
    (rest : Location) : t.peek (location ++ rest) = none := by
  rw [peek_append, peek_eq_none_iff.mp h, Option.bind_none]

/-- Nothing is seen below a file. -/
lemma peek_append_of_file {t : Tree α} {location rest : Location} {content : α}
    (h : t.peek location = some (.file content)) (hrest : rest ≠ []) :
    t.peek (location ++ rest) = none := by
  rw [peek_append, peek_eq_file_iff.mp h, Option.bind_some]
  cases rest with
  | nil => exact absurd rfl hrest
  | cons name rest => rfl

/-- Whatever something is below is a directory. -/
lemma peek_of_append {t : Tree α} {location rest : Location} (hrest : rest ≠ [])
    (h : t.peek (location ++ rest) ≠ none) : t.peek location = some .directory := by
  cases hlocation : t.peek location with
  | none => exact absurd (peek_append_of_none hlocation rest) h
  | some node =>
    cases node with
    | file content => exact absurd (peek_append_of_file hlocation hrest) h
    | directory => rfl

/-- Whatever a directory is below is a directory. -/
lemma peek_of_prefix {t : Tree α} {base front names : Location}
    (h : t.peek (base ++ names) = some .directory) (hfront : front <+: names) :
    t.peek (base ++ front) = some .directory := by
  obtain ⟨rest, rfl⟩ := hfront
  rcases eq_or_ne rest [] with rfl | hrest
  · rwa [List.append_nil] at h
  · rw [← List.append_assoc] at h
    exact peek_of_append hrest (by rw [h]; exact Option.some_ne_none _)

/-- A directory has no entries exactly when nothing is seen under any name in it. -/
lemma entries_eq_nil_iff {t : Tree α} {location : Location} {entries : Entries α}
    (h : t.get? location = some (directory entries)) :
    entries = [] ↔ ∀ name, t.peek (location ++ [name]) = none := by
  have hchild : ∀ name, t.peek (location ++ [name]) = (child? entries name).map node := by
    intro name
    rw [peek_append, h, Option.bind_some]
    unfold peek
    rw [get?_directory_cons]
    cases child? entries name <;> simp
  simp only [hchild, Option.map_eq_none_iff, child?_eq_none_iff]

/-! ## Changing -/

/-- A change below a location changes the tree at it. -/
lemma get?_update_append (change : Entries α → Entries α) (root : Tree α)
    (location rest : Location) :
    (root.update change (location ++ rest)).get? location =
      (root.get? location).map (update change rest) := by
  induction location generalizing root with
  | nil => rw [List.nil_append, get?_nil, get?_nil, Option.map_some]
  | cons name location ih =>
    cases root with
    | file content => rfl
    | directory entries =>
      rw [List.cons_append, update, get?_directory_cons, get?_directory_cons,
        child?_map (update change (location ++ rest)), if_pos rfl]
      cases child? entries name with
      | none => rfl
      | some child => exact ih child

/-- A change elsewhere leaves the tree at a location as it was. -/
lemma get?_update_of_apart (change : Entries α → Entries α) (root : Tree α)
    {dir location : Location} (h : ¬ location <+: dir) (h' : ¬ dir <+: location) :
    (root.update change dir).get? location = root.get? location := by
  induction dir generalizing root location with
  | nil => exact absurd List.nil_prefix h'
  | cons name dir ih =>
    cases location with
    | nil => exact absurd List.nil_prefix h
    | cons other location =>
      cases root with
      | file content => rfl
      | directory entries =>
        rw [update, get?_directory_cons, get?_directory_cons, child?_map (update change dir)]
        split
        · next heq =>
          subst heq
          rw [List.cons_prefix_cons] at h h'
          cases child? entries other with
          | none => rfl
          | some child => exact ih child (fun hp => h ⟨rfl, hp⟩) fun hp => h' ⟨rfl, hp⟩
        · rfl

/-- A change inside a tree does not show from outside. -/
@[simp] lemma node_update (change : Entries α → Entries α) (location : Location) (t : Tree α) :
    (t.update change location).node = t.node := by
  cases t <;> cases location <;> rfl

/-- A change in a directory is seen only below it. -/
lemma peek_update_of_not_above (change : Entries α → Entries α) (root : Tree α)
    {dir location : Location} (h : ¬ dir <+: location) :
    (root.update change dir).peek location = root.peek location := by
  unfold peek
  by_cases habove : location <+: dir
  · obtain ⟨rest, rfl⟩ := habove
    rw [get?_update_append, Option.map_map]
    congr 1
    funext t
    exact node_update change rest t
  · rw [get?_update_of_apart change root habove h]

/-- Below a directory that is changed, the changed entries are seen. -/
lemma peek_update_append {change : Entries α → Entries α} {root : Tree α} {dir : Location}
    {entries : Entries α} (h : root.get? dir = some (directory entries)) (rest : Location) :
    (root.update change dir).peek (dir ++ rest) = (directory (change entries)).peek rest := by
  have hdir := get?_update_append change root dir []
  rw [List.append_nil, h] at hdir
  rw [peek_append, hdir]
  rfl

/-- What is seen after one entry of a directory was replaced or taken away. -/
lemma peek_update {change : Entries α → Entries α} {root : Tree α} {dir : Location} {name : Name}
    {entries : Entries α} {new : Option (Tree α)} (hentries : root.get? dir = some (directory entries))
    (hchange : ∀ other, child? (change entries) other =
      if other = name then new else child? entries other) (location : Location) :
    (root.update change dir).peek location =
      if dir ++ [name] <+: location then new.bind (·.peek (location.drop (dir.length + 1)))
      else root.peek location := by
  by_cases hbelow : dir <+: location
  · obtain ⟨rest, rfl⟩ := hbelow
    rw [peek_update_append hentries, peek_append, hentries, Option.bind_some]
    cases rest with
    | nil =>
      have hnot : ¬ dir ++ [name] <+: dir ++ [] := fun h => by simpa using h.length_le
      rw [if_neg hnot]
      rfl
    | cons other rest =>
      have hiff : dir ++ [name] <+: dir ++ other :: rest ↔ other = name := by
        rw [List.prefix_append_right_inj, List.cons_prefix_cons, eq_comm]
        simp
      unfold peek
      rw [get?_directory_cons, get?_directory_cons, hchange]
      by_cases hname : other = name
      · rw [if_pos hname, if_pos (hiff.mpr hname), Option.map_bind]
        simp
      · rw [if_neg hname, if_neg (hiff.not.mpr hname)]
  · have hnot : ¬ dir ++ [name] <+: location := fun h => hbelow ((List.prefix_append _ _).trans h)
    rw [if_neg hnot, peek_update_of_not_above _ _ hbelow]

/-- A tree that is placed in a directory is seen in its place, and all else stays. -/
lemma peek_insert {root : Tree α} {dir : Location} (hdir : root.peek dir = some .directory)
    (name : Name) (t : Tree α) (location : Location) :
    (root.insert (dir ++ [name]) t).peek location =
      if dir ++ [name] <+: location then t.peek (location.drop (dir.length + 1))
      else root.peek location := by
  obtain ⟨entries, hentries⟩ := peek_eq_directory_iff.mp hdir
  unfold insert
  rw [List.getLast?_concat, List.dropLast_concat]
  exact peek_update hentries (child?_place name t entries) location

/-- A tree that is taken away is not seen any more, nor is anything below it, and all else stays. -/
lemma peek_erase {root : Tree α} {dir : Location} (hdir : root.peek dir = some .directory)
    (name : Name) (location : Location) :
    (root.erase (dir ++ [name])).peek location =
      if dir ++ [name] <+: location then none else root.peek location := by
  obtain ⟨entries, hentries⟩ := peek_eq_directory_iff.mp hdir
  unfold erase
  rw [List.getLast?_concat, List.dropLast_concat]
  exact peek_update hentries (child?_drop entries name) location

/-- Where nothing is below a location, a file or an empty directory that is placed there is all that
is seen to change. -/
lemma peek_insert_leaf {root : Tree α} {dir : Location} (hdir : root.peek dir = some .directory)
    {name : Name} (hbelow : ∀ rest ≠ [], root.peek (dir ++ [name] ++ rest) = none) {t : Tree α}
    (hleaf : ∀ rest ≠ [], t.peek rest = none) (location : Location) :
    (root.insert (dir ++ [name]) t).peek location =
      if location = dir ++ [name] then some t.node else root.peek location := by
  rw [peek_insert hdir]
  split
  · next h =>
    obtain ⟨rest, rfl⟩ := h
    have hdrop : (dir ++ [name] ++ rest).drop (dir.length + 1) = rest := by simp
    rw [hdrop]
    by_cases hrest : rest = []
    · rw [hrest, List.append_nil, if_pos rfl, peek_nil]
    · have hne : dir ++ [name] ++ rest ≠ dir ++ [name] := by simpa using hrest
      rw [if_neg hne, hleaf rest hrest, hbelow rest hrest]
  · next h =>
    have hne : location ≠ dir ++ [name] := by
      rintro rfl
      exact h List.prefix_rfl
    rw [if_neg hne]

/-- Where nothing is below a location, what was there is all that is not seen any more when it is taken
away. -/
lemma peek_erase_leaf {root : Tree α} {dir : Location} (hdir : root.peek dir = some .directory)
    {name : Name} (hbelow : ∀ rest ≠ [], root.peek (dir ++ [name] ++ rest) = none)
    (location : Location) :
    (root.erase (dir ++ [name])).peek location =
      if location = dir ++ [name] then none else root.peek location := by
  rw [peek_erase hdir]
  by_cases h : location = dir ++ [name]
  · rw [if_pos h, if_pos (h ▸ List.prefix_rfl)]
  · rw [if_neg h]
    split
    · next hstart =>
      obtain ⟨rest, rfl⟩ := hstart
      exact (hbelow rest (by simpa using h)).symm
    · rfl

/-- A file has nothing below it. -/
lemma peek_file_of_ne {rest : Location} (content : α) (h : rest ≠ []) :
    (file content).peek rest = none := by
  cases rest with
  | nil => exact absurd rfl h
  | cons name rest => rfl

/-- An empty directory has nothing below it. -/
lemma peek_empty_of_ne {rest : Location} (h : rest ≠ []) : (empty : Tree α).peek rest = none := by
  cases rest with
  | nil => exact absurd rfl h
  | cons name rest => rfl

/-- Nothing is seen below an empty directory. -/
lemma peek_append_of_empty {t : Tree α} {location rest : Location}
    (h : t.get? location = some (directory [])) (hrest : rest ≠ []) :
    t.peek (location ++ rest) = none := by
  rw [peek_append, h, Option.bind_some]
  exact peek_empty_of_ne hrest

/-- Placing something strictly below a location changes the tree at it. -/
lemma get?_insert_append (root t : Tree α) (location : Location) {rest : Location}
    (hrest : rest ≠ []) :
    (root.insert (location ++ rest) t).get? location =
      (root.get? location).map fun child => child.insert rest t := by
  obtain ⟨dir, name, rfl⟩ := (List.eq_nil_or_concat rest).resolve_left hrest
  unfold insert
  rw [List.concat_eq_append, ← List.append_assoc, List.getLast?_concat, List.dropLast_concat,
    List.getLast?_concat, List.dropLast_concat]
  exact get?_update_append (place name t) root location dir

/-- Taking something away strictly below a location changes the tree at it. -/
lemma get?_erase_append (root : Tree α) (location : Location) {rest : Location}
    (hrest : rest ≠ []) :
    (root.erase (location ++ rest)).get? location =
      (root.get? location).map fun child => child.erase rest := by
  obtain ⟨dir, name, rfl⟩ := (List.eq_nil_or_concat rest).resolve_left hrest
  unfold erase
  rw [List.concat_eq_append, ← List.append_assoc, List.getLast?_concat, List.dropLast_concat,
    List.getLast?_concat, List.dropLast_concat]
  exact get?_update_append (drop name) root location dir

/-! ## Distinct names -/

/-- No two entries of a directory share a name. -/
def Distinct (t : Tree α) : Prop :=
  ∀ location entries, t.get? location = some (directory entries) → (entries.map Prod.fst).Nodup

/-- A file has no entries at all. -/
lemma distinct_file (content : α) : (file content).Distinct := by
  intro location entries h
  cases location with
  | nil => cases h
  | cons name rest => cases h

/-- Names are distinct in a directory when they are among its entries and in each of these. -/
lemma distinct_directory_iff {entries : Entries α} :
    (directory entries).Distinct ↔
      (entries.map Prod.fst).Nodup ∧ ∀ entry ∈ entries, entry.2.Distinct := by
  constructor
  · intro h
    have hnames : (entries.map Prod.fst).Nodup := h [] entries (get?_nil _)
    refine ⟨hnames, fun entry hentry location others hget => h (entry.1 :: location) others ?_⟩
    rw [get?_directory_cons, child?_of_mem hnames hentry]
    exact hget
  · rintro ⟨hnames, hentries⟩ location others hget
    cases location with
    | nil =>
      cases hget
      exact hnames
    | cons name location =>
      rw [get?_directory_cons] at hget
      obtain ⟨child, hchild, hget⟩ := Option.bind_eq_some_iff.mp hget
      exact hentries _ (mem_of_child? hchild) location others hget

/-- No two entries of an empty directory share a name. -/
lemma distinct_empty : (empty : Tree α).Distinct :=
  distinct_directory_iff.mpr ⟨List.nodup_nil, by simp⟩

/-- Names are distinct in every part of a tree. -/
lemma Distinct.part {t part : Tree α} (h : t.Distinct) {location : Location}
    (hget : t.get? location = some part) : part.Distinct := by
  intro rest entries hentries
  refine h (location ++ rest) entries ?_
  rw [get?_append, hget]
  exact hentries

/-- A change that keeps the names of directories distinct may be made anywhere. -/
lemma Distinct.update {root : Tree α} (h : root.Distinct) {change : Entries α → Entries α}
    (hchange : ∀ entries, (directory entries).Distinct → (directory (change entries)).Distinct)
    (dir : Location) : (root.update change dir).Distinct := by
  induction dir generalizing root with
  | nil =>
    cases root with
    | file content => exact h
    | directory entries => exact hchange entries h
  | cons name dir ih =>
    cases root with
    | file content => exact h
    | directory entries =>
      obtain ⟨hnames, hentries⟩ := distinct_directory_iff.mp h
      rw [Tree.update, distinct_directory_iff]
      constructor
      · have hsame : (entries.map fun entry => if entry.1 = name then
            (entry.1, Tree.update change dir entry.2) else entry).map Prod.fst =
              entries.map Prod.fst := by
          rw [List.map_map]
          refine List.map_congr_left fun entry _ => ?_
          dsimp only [Function.comp_apply]
          split <;> rfl
        rw [hsame]
        exact hnames
      · intro entry hentry
        obtain ⟨old, hold, rfl⟩ := List.mem_map.mp hentry
        split
        · exact ih (hentries old hold)
        · exact hentries old hold

/-- A tree that is placed somewhere keeps names distinct. -/
lemma Distinct.insert {root t : Tree α} (h : root.Distinct) (ht : t.Distinct)
    (location : Location) : (root.insert location t).Distinct := by
  unfold Tree.insert
  split
  · exact ht
  · next name _ =>
    refine h.update (fun entries hentries => ?_) _
    obtain ⟨hnames, hchildren⟩ := distinct_directory_iff.mp hentries
    rw [distinct_directory_iff]
    constructor
    · have hmap : (place name t entries).map Prod.fst =
          (entries.map Prod.fst).filter (· ≠ name) ++ [name] := by
        unfold place
        rw [List.map_append, List.filter_map]
        rfl
      rw [hmap]
      refine (hnames.filter _).append (List.nodup_singleton name) ?_
      simp
    · intro entry hentry
      rcases List.mem_append.mp hentry with hold | hnew
      · exact hchildren entry (List.mem_of_mem_filter hold)
      · rw [List.mem_singleton.mp hnew]
        exact ht

/-- A tree that is taken away leaves names distinct. -/
lemma Distinct.erase {root : Tree α} (h : root.Distinct) (location : Location) :
    (root.erase location).Distinct := by
  unfold Tree.erase
  split
  · exact h
  · refine h.update (fun entries hentries => ?_) _
    obtain ⟨hnames, hchildren⟩ := distinct_directory_iff.mp hentries
    rw [distinct_directory_iff]
    refine ⟨hnames.sublist (List.Sublist.map _ List.filter_sublist), fun entry hentry => ?_⟩
    exact hchildren entry (List.mem_of_mem_filter hentry)

/-! ## All files -/

/-- The files below entries are those below each of them. -/
lemma mem_filesOf {entries : Entries α} {location : Location} {content : α} :
    (location, content) ∈ filesOf entries ↔ ∃ name child rest,
      (name, child) ∈ entries ∧ (rest, content) ∈ child.files ∧ location = name :: rest := by
  induction entries with
  | nil => simp [filesOf]
  | cons entry entries ih =>
    obtain ⟨name, child⟩ := entry
    rw [filesOf, List.mem_append, ih, List.mem_map]
    constructor
    · rintro (⟨⟨rest, other⟩, hfile, heq⟩ | ⟨other, child', rest, hmem, hfile, rfl⟩)
      · cases heq
        exact ⟨name, child, rest, List.mem_cons_self, hfile, rfl⟩
      · exact ⟨other, child', rest, List.mem_cons_of_mem _ hmem, hfile, rfl⟩
    · rintro ⟨other, child', rest, hmem, hfile, rfl⟩
      rcases List.mem_cons.mp hmem with heq | hmem
      · cases heq
        exact .inl ⟨(rest, content), hfile, rfl⟩
      · exact .inr ⟨other, child', rest, hmem, hfile, rfl⟩

/-- The files that are listed are those that are seen. -/
lemma mem_files_iff {t : Tree α} (h : t.Distinct) {location : Location} {content : α} :
    (location, content) ∈ t.files ↔ t.get? location = some (file content) := by
  induction location generalizing t with
  | nil =>
    cases t with
    | file other => simp [files, eq_comm]
    | directory entries => simp [files, mem_filesOf]
  | cons name rest ih =>
    cases t with
    | file other => simp [files]
    | directory entries =>
      obtain ⟨hnames, hentries⟩ := distinct_directory_iff.mp h
      rw [files, mem_filesOf, get?_directory_cons, Option.bind_eq_some_iff]
      constructor
      · rintro ⟨other, child, rest', hmem, hfile, heq⟩
        cases heq
        exact ⟨child, child?_of_mem hnames hmem, (ih (hentries _ hmem)).mp hfile⟩
      · rintro ⟨child, hchild, hget⟩
        have hmem := mem_of_child? hchild
        exact ⟨name, child, rest, hmem, (ih (hentries _ hmem)).mpr hget, rfl⟩

mutual

/-- Every file is listed once. -/
lemma Distinct.nodup_files : (t : Tree α) → t.Distinct → (t.files.map Prod.fst).Nodup
  | .file content, _ => by simp [files]
  | .directory entries, h => by
    obtain ⟨hnames, hentries⟩ := distinct_directory_iff.mp h
    rw [files]
    exact Distinct.nodup_filesOf entries hnames hentries

/-- Every file below entries is listed once. -/
lemma Distinct.nodup_filesOf : (entries : Entries α) → (entries.map Prod.fst).Nodup →
    (∀ entry ∈ entries, entry.2.Distinct) → ((filesOf entries).map Prod.fst).Nodup
  | [], _, _ => by simp [filesOf]
  | (name, child) :: rest, hnames, hentries => by
    rw [List.map_cons, List.nodup_cons] at hnames
    have hchild := Distinct.nodup_files child (hentries _ List.mem_cons_self)
    have hrest := Distinct.nodup_filesOf rest hnames.2 fun entry hentry =>
      hentries entry (List.mem_cons_of_mem _ hentry)
    rw [filesOf, List.map_append, List.map_map]
    refine List.Nodup.append ?_ hrest ?_
    · have hcons : (Prod.fst ∘ fun (location, a) => (name :: location, a)) =
          (List.cons name ∘ Prod.fst : Location × α → Location) := rfl
      rw [hcons, ← List.map_map]
      exact hchild.map (List.cons_injective)
    · intro location hleft hright
      obtain ⟨file, -, rfl⟩ := List.mem_map.mp hleft
      obtain ⟨⟨other, content⟩, hmem, heq⟩ := List.mem_map.mp hright
      obtain ⟨name', child', rest', hentry, -, hlocation⟩ := mem_filesOf.mp hmem
      have hname : name' = name := by
        have hcons := hlocation.symm.trans heq
        exact (List.cons.inj hcons).1
      subst hname
      exact hnames.1 (List.mem_map.mpr ⟨_, hentry, rfl⟩)

end

/-- The directories below entries are those below each of them. -/
lemma mem_directoriesOf {entries : Entries α} {location : Location} :
    location ∈ directoriesOf entries ↔ ∃ name child rest,
      (name, child) ∈ entries ∧ rest ∈ child.directories ∧ location = name :: rest := by
  induction entries with
  | nil => simp [directoriesOf]
  | cons entry entries ih =>
    obtain ⟨name, child⟩ := entry
    rw [directoriesOf, List.mem_append, ih, List.mem_map]
    constructor
    · rintro (⟨rest, hdir, rfl⟩ | ⟨other, child', rest, hmem, hdir, rfl⟩)
      · exact ⟨name, child, rest, List.mem_cons_self, hdir, rfl⟩
      · exact ⟨other, child', rest, List.mem_cons_of_mem _ hmem, hdir, rfl⟩
    · rintro ⟨other, child', rest, hmem, hdir, rfl⟩
      rcases List.mem_cons.mp hmem with heq | hmem
      · cases heq
        exact .inl ⟨rest, hdir, rfl⟩
      · exact .inr ⟨other, child', rest, hmem, hdir, rfl⟩

/-- The directories that are listed are those that are seen. -/
lemma mem_directories_iff {t : Tree α} (h : t.Distinct) {location : Location} :
    location ∈ t.directories ↔ ∃ entries, t.get? location = some (directory entries) := by
  induction location generalizing t with
  | nil =>
    cases t with
    | file content => simp [directories]
    | directory entries => simp [directories]
  | cons name rest ih =>
    cases t with
    | file content => simp [directories]
    | directory entries =>
      obtain ⟨hnames, hentries⟩ := distinct_directory_iff.mp h
      rw [directories, List.mem_cons, or_iff_right (List.cons_ne_nil name rest), mem_directoriesOf,
        get?_directory_cons]
      constructor
      · rintro ⟨other, child, rest', hmem, hdir, heq⟩
        cases heq
        rw [child?_of_mem hnames hmem]
        exact (ih (hentries _ hmem)).mp hdir
      · rintro ⟨inner, hget⟩
        obtain ⟨child, hchild, hget⟩ := Option.bind_eq_some_iff.mp hget
        have hmem := mem_of_child? hchild
        exact ⟨name, child, rest, hmem, (ih (hentries _ hmem)).mpr ⟨inner, hget⟩, rfl⟩

end Tree

end ClaimCheck.Disk
