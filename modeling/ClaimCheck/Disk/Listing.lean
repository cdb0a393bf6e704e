import ClaimCheck.Disk.Request
import ClaimCheck.Text.Utf8

/-!
# Listings

The names of the files below a directory are collected directory by directory.  Each round reads one
of the directories that are still pending by its path, the one that was met last: its files are found,
and its own directories are pending then, each with the names that lead to it.  A directory that cannot
be read ends the listing.

Whatever is replied, this comes to an end: the path of each directory has one name more than that of
the directory it was met in, and a directory whose path is too long is not read.
-/

namespace ClaimCheck.Disk

open Text

/-! ### Stacks of numbers -/

/-- The first number of a stack makes way for smaller ones. -/
inductive Shrinks : List Nat → List Nat → Prop
  | pop {smaller rest : List Nat} {n : Nat} (hsmaller : ∀ k ∈ smaller, k < n) :
      Shrinks (smaller ++ rest) (n :: rest)

/-- Below a number that comes on top, a stack is reached again. -/
theorem Shrinks.acc_cons (n : Nat) {rest : List Nat} (hrest : Acc Shrinks rest) :
    Acc Shrinks (n :: rest) := by
  induction n using Nat.strongRecOn generalizing rest with
  | ind n ih =>
    constructor
    intro stack hstack
    cases hstack with
    | @pop smaller _ _ hsmaller =>
      -- the smaller numbers are worked off from the last one on
      induction smaller with
      | nil => exact hrest
      | cons k smaller ihs =>
        rw [List.forall_mem_cons] at hsmaller
        exact ih k hsmaller.1 (ihs hsmaller.2)

/-- No stack shrinks for ever. -/
theorem Shrinks.wellFounded : WellFounded Shrinks := by
  refine ⟨fun stack => ?_⟩
  induction stack with
  | nil => exact ⟨_, fun _ h => by cases h⟩
  | cons n rest ih => exact acc_cons n ih

/-! ### Listings under way -/

/-- The name of an entry behind that of its directory, which is empty for the first directory. -/
def entryName (dir : String) (name : Name) : String :=
  let text := Utf8.decodeLossy name
  if dir.isEmpty then text else dir ++ "/" ++ text

/-- A listing under way: the paths of the directories that are still to be read, the one that was met
last first, each with its name, and the names of the files that were found. -/
structure Listing where
  pending : List (Path × String)
  found : List String

namespace Listing

/-- The listing that begins with a directory. -/
def start (path : Path) : Listing := ⟨[(path, "")], []⟩

/-- Takes note of an entry of a directory. -/
def note (path : Path) (dir : String) (l : Listing) (entry : Name × Bool) : Listing :=
  let name := entryName dir entry.1
  if entry.2 then { l with pending := (path.child entry.1, name) :: l.pending }
  else { l with found := l.found ++ [name] }

/-- Takes note of all entries of a directory. -/
def noteAll (path : Path) (dir : String) (l : Listing) (entries : List (Name × Bool)) : Listing :=
  entries.foldl (note path dir) l

/-- How many names more than a path has may be in a path that is read. -/
def depthLeft (path : Path) : Nat := longestPath + 2 - path.names.length

instance : WellFoundedRelation Listing where
  rel := InvImage Shrinks fun l => l.pending.map fun dir => depthLeft dir.1
  wf := InvImage.wf _ Shrinks.wellFounded

/-- The directories in a directory come on top of those that are pending. -/
theorem pending_noteAll (path : Path) (dir : String) (entries : List (Name × Bool)) (l : Listing) :
    ∃ dirs, (l.noteAll path dir entries).pending = dirs ++ l.pending ∧
      ∀ inner ∈ dirs, depthLeft inner.1 = depthLeft path - 1 := by
  induction entries generalizing l with
  | nil => exact ⟨[], rfl, by simp⟩
  | cons entry rest ih =>
    obtain ⟨dirs, hdirs, hdepth⟩ := ih (l.note path dir entry)
    unfold noteAll at hdirs ⊢
    rw [List.foldl_cons, hdirs, note]
    split
    · refine ⟨dirs ++ [(path.child entry.1, entryName dir entry.1)], by simp, ?_⟩
      intro inner hinner
      rcases List.mem_append.mp hinner with hinner | hinner
      · exact hdepth inner hinner
      · rw [List.mem_singleton.mp hinner]
        simp [depthLeft, Path.child]
        omega
    · exact ⟨dirs, rfl, hdepth⟩

end Listing

/-- A path has no more names than bytes, but for one. -/
theorem Path.length_le_size (path : Path) : path.names.length ≤ path.size + 1 := by
  have hsum : ∀ (names : List Name) (n : Nat),
      n + names.length ≤ names.foldl (fun n name => n + (name.size + 1)) n := by
    intro names
    induction names with
    | nil => simp
    | cons name names ih =>
      intro n
      have h := ih (n + (name.size + 1))
      rw [List.foldl_cons, List.length_cons]
      omega
  have h := hsum path.names 0
  unfold size
  split <;> omega

/-- The names of all files that are found until no directory is pending. -/
def Listing.collect : Listing → Action (Except Fault (List String))
  | ⟨[], found⟩ => .done (.ok found)
  | ⟨(path, dir) :: pending, found⟩ =>
    .ask (.readDirectory path) fun
      | .error fault => .done (.error fault)
      | .ok reading => (noteAll path dir ⟨pending, found⟩ reading.entries).collect
termination_by l => l
decreasing_by
  obtain ⟨dirs, hdirs, hdepth⟩ := pending_noteAll path dir reading.entries ⟨pending, found⟩
  rw [hdirs, List.map_append, List.map_cons]
  refine .pop fun k hk => ?_
  obtain ⟨inner, hinner, rfl⟩ := List.mem_map.mp hk
  have hlength : path.names.length < longestPath + 2 :=
    Nat.lt_succ_of_le (Nat.le_trans path.length_le_size (Nat.succ_le_succ reading.short))
  rw [hdepth inner hinner]
  exact Nat.sub_lt (Nat.sub_pos_of_lt hlength) Nat.one_pos

end ClaimCheck.Disk
