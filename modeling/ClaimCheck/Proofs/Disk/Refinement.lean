import Mathlib
import ClaimCheck.Proofs.Disk.Changing

/-!
# The store on disk does what the store in memory does

A store on disk that starts in an empty directory and an empty store in memory are given the same
calls, one after another.  The calls are those that the store on disk takes: containers and blobs are
given by names that it accepts and whose paths the file system takes, and no name of a blob leads
above or below a blob that is in its container (`Account.Admits`).  Nothing else writes to the file
system, and nothing fails in it but what it is asked wrongly.

Then every call is answered alike, and at the end the directory holds what the store in memory holds
(`answers_alike`).  One call is `Account.Admits.run_perform`: a tree that mirrors the account before
it mirrors the account after it.
-/

namespace ClaimCheck.Store

/-- The outcomes of calls, each with its call. -/
abbrev Outcomes := List (Σ call : Call, call.Outcome)

/-- Answers calls one after another. -/
def answerAll {σ : Type} (answer : (call : Call) → σ → call.Outcome × σ) :
    σ → List Call → Outcomes × σ
  | state, [] => ([], state)
  | state, call :: calls =>
    let (outcome, next) := answer call state
    let (outcomes, last) := answerAll answer next calls
    (⟨call, outcome⟩ :: outcomes, last)

/-- Answers calls in memory, one after another. -/
def Account.answerAll : Account → List Call → Outcomes × Account :=
  Store.answerAll fun call a => a.answer call

end ClaimCheck.Store

namespace ClaimCheck.Disk

open Store

/-! ## Calls that are admitted -/

/-- A path that the store accepts and the file system takes: neither the path nor a name in it is too
long, and no name has a zero byte. -/
def IsTaken : Except Store.Fault Path → Prop
  | .error _ => False
  | .ok path =>
    path.hasNul = false ∧ path.size ≤ longestPath ∧ ∀ name ∈ path.names, name.size ≤ longestName

instance : DecidablePred IsTaken
  | .error _ => inferInstanceAs (Decidable False)
  | .ok _ => inferInstanceAs (Decidable (_ ∧ _ ∧ _))

instance (name other : String) : Decidable (Overlaps name other) :=
  inferInstanceAs (Decidable (_ ∧ _))

instance (s : Store.Account) (place : Locator) : Decidable (StaysApart s place) :=
  inferInstanceAs (Decidable (∀ other ∈ s.blobNames place.container, ¬ Overlaps place.name other))

namespace Account

/-- The path of a blob. -/
def blobPath (a : Account) (place : Locator) : Except Store.Fault Path := do
  let container ← a.containerPath place.container
  let names ← segments place.name
  return container.append names

/-- A call that the store on disk takes when the blobs are those of an account in memory. -/
def Admits (a : Account) (s : Store.Account) : Call → Prop
  | .put place _ => IsTaken (a.blobPath place) ∧ StaysApart s place
  | .get place => IsTaken (a.blobPath place) ∧ StaysApart s place
  | .deleteBlob place => IsTaken (a.blobPath place) ∧ StaysApart s place
  | .list container => IsTaken (a.containerPath container)
  | .deleteContainer container => IsTaken (a.containerPath container)

/-- Calls that are taken, each when its turn comes. -/
def AdmitsAll (a : Account) : Store.Account → List Call → Prop
  | _, [] => True
  | s, call :: calls => a.Admits s call ∧ a.AdmitsAll (s.answer call).2 calls

instance (a : Account) (s : Store.Account) : DecidablePred (a.Admits s)
  | .put .. => inferInstanceAs (Decidable (_ ∧ _))
  | .get _ => inferInstanceAs (Decidable (_ ∧ _))
  | .deleteBlob _ => inferInstanceAs (Decidable (_ ∧ _))
  | .list _ => inferInstanceAs (Decidable (IsTaken _))
  | .deleteContainer _ => inferInstanceAs (Decidable (IsTaken _))

/-- Whether calls are taken is decided call by call. -/
def decideAdmitsAll (a : Account) : (s : Store.Account) → (calls : List Call) →
    Decidable (a.AdmitsAll s calls)
  | _, [] => inferInstanceAs (Decidable True)
  | s, call :: calls =>
    let _ := decideAdmitsAll a (s.answer call).2 calls
    inferInstanceAs (Decidable (a.Admits s call ∧ a.AdmitsAll (s.answer call).2 calls))

instance (a : Account) (s : Store.Account) : DecidablePred (a.AdmitsAll s) := a.decideAdmitsAll s

/-- Answers calls on disk, one after another. -/
def answerAll (a : Account) : Machine → List Call → Outcomes × Machine :=
  Store.answerAll fun call m => m.run (a.perform call).run

variable {a : Account} {m : Machine} {base : Location} {t : Tree ByteArray} {s : Store.Account}
  {place : Locator} {container : String} {call : Call} {calls : List Call}

/-- A container whose path is taken. -/
lemma fits_of_isTaken (h : IsTaken (a.containerPath container)) :
    isEntryName container = true ∧ Fits a.root [container.toUTF8] := by
  by_cases hname : isEntryName container = true
  · rw [containerPath_eq a hname] at h
    obtain ⟨hnul, hsize, hlong⟩ := h
    refine ⟨hname, fun name hmem => ?_, hnul, hsize⟩
    rw [List.mem_singleton.mp hmem]
    exact ⟨Name.isPlain_toUTF8 hname, hlong _ (List.mem_append_right _ (List.mem_singleton_self _))⟩
  · unfold containerPath at h
    rw [if_neg hname] at h
    exact h.elim

/-- A blob whose path is taken. -/
lemma exists_segments_of_isTaken (h : IsTaken (a.blobPath place)) :
    ∃ names, isEntryName place.container = true ∧ segments place.name = .ok names ∧
      Fits a.root (place.container.toUTF8 :: names) ∧
      a.blobPath place = .ok (a.root.append (place.container.toUTF8 :: names)) := by
  have hpath : ∀ path names, a.containerPath place.container = .ok path →
      segments place.name = .ok names → a.blobPath place = .ok (path.append names) := by
    intro path names hcontainer hsegments
    unfold blobPath
    rw [hcontainer, hsegments]
    rfl
  by_cases hname : isEntryName place.container = true
  · have hcontainer := containerPath_eq a hname
    cases hsegments : segments place.name with
    | error fault =>
      unfold blobPath at h
      rw [hcontainer, hsegments] at h
      exact h.elim
    | ok names =>
      have hblob := hpath _ _ hcontainer hsegments
      rw [append_container] at hblob
      rw [hblob] at h
      obtain ⟨hnul, hsize, hlong⟩ := h
      refine ⟨names, hname, rfl,
        ⟨fun name hmem => ⟨?_, hlong name (List.mem_append_right _ hmem)⟩, hnul, hsize⟩, hblob⟩
      rcases List.mem_cons.mp hmem with rfl | hmem
      · exact Name.isPlain_toUTF8 hname
      · exact isPlain_of_segments hsegments hmem
  · unfold blobPath containerPath at h
    rw [if_neg hname] at h
    exact h.elim

/-- A blob whose path is taken, and which stays apart. -/
lemma exists_reaches (h : IsTaken (a.blobPath place)) (hapart : StaysApart s place) :
    ∃ names, Reaches a.root s place names := by
  obtain ⟨names, hname, hsegments, hfits, -⟩ := exists_segments_of_isTaken h
  exact ⟨names, hname, hsegments, hfits, hapart⟩

/-- A call that is taken is answered alike, and the tree mirrors the account again. -/
lemma Admits.run_perform (hadmits : a.Admits s call) (hkept : IsKept a.root base m)
    (h : Anchored m a.root base t) (hm : Mirrors t s) :
    ∃ m' t', m.run (a.perform call).run = ((s.answer call).1, m') ∧
      Anchored m' a.root base t' ∧ Mirrors t' (s.answer call).2 := by
  -- a call that only reads leaves the tree and the account as they are
  have hreads : (∃ place, call = .get place) ∨ (∃ container, call = .list container) →
      Mirrors t (s.answer call).2 := fun hreads =>
    hm.of_get?_eq (Store.Account.isUnavailable_answer s call) fun container => by
      rw [Store.Account.containers_answer_of_reads hreads]
  cases call with
  | put place data =>
    obtain ⟨names, hreaches⟩ := exists_reaches hadmits.1 hadmits.2
    exact run_put h hm hreaches data
  | get place =>
    obtain ⟨names, hreaches⟩ := exists_reaches hadmits.1 hadmits.2
    exact ⟨m, t, run_get h hm hreaches, h, hreads (.inl ⟨place, rfl⟩)⟩
  | deleteBlob place =>
    obtain ⟨names, hreaches⟩ := exists_reaches hadmits.1 hadmits.2
    exact run_deleteBlob h hm hreaches
  | list container =>
    obtain ⟨hname, hfits⟩ := fits_of_isTaken hadmits
    exact ⟨m, t, run_list hkept h hm hname hfits, h, hreads (.inr ⟨container, rfl⟩)⟩
  | deleteContainer container =>
    obtain ⟨hname, hfits⟩ := fits_of_isTaken hadmits
    exact run_deleteContainer h hm hname hfits

/-- Whatever calls are made, one after another, what is kept below the root stays kept. -/
lemma isKept_answerAll (h : IsKept a.root base m) (calls : List Call) :
    IsKept a.root base (a.answerAll m calls).2 := by
  induction calls generalizing m with
  | nil => exact h
  | cons call calls ih => exact ih (h.run_perform call)

/-- After any calls to a store that started in an empty directory all is kept. -/
lemma isKept_of_empty (hlook : m.look a.root = .ok (base, .directory []))
    (hlimit : m.sizeLimit = none) (calls : List Call) :
    IsKept a.root base (a.answerAll m calls).2 :=
  isKept_answerAll ⟨_, anchored_of_empty hlook hlimit, Spelled.empty⟩ calls

/-- Calls that are taken are answered alike one after another. -/
lemma AdmitsAll.answerAll_eq (hadmits : a.AdmitsAll s calls) (hkept : IsKept a.root base m)
    (h : Anchored m a.root base t) (hm : Mirrors t s) :
    ∃ m' t', a.answerAll m calls = ((s.answerAll calls).1, m') ∧
      Anchored m' a.root base t' ∧ Mirrors t' (s.answerAll calls).2 := by
  induction calls generalizing m t s with
  | nil => exact ⟨m, t, rfl, h, hm⟩
  | cons call calls ih =>
    obtain ⟨m₁, t₁, hrun, h₁, hm₁⟩ := hadmits.1.run_perform hkept h hm
    have hkept₁ := hkept.run_perform call
    rw [hrun] at hkept₁
    obtain ⟨m', t', hrest, h', hm'⟩ := ih hadmits.2 hkept₁ h₁ hm₁
    refine ⟨m', t', ?_, h', hm'⟩
    unfold answerAll Store.answerAll
    rw [hrun]
    dsimp only
    change (⟨call, _⟩ :: (a.answerAll m₁ calls).1, (a.answerAll m₁ calls).2) = _
    rw [hrest]
    rfl

end Account

/-! ## Side by side -/

/-- A store on disk that starts in an empty directory answers calls as an empty store in memory
does, and at the end its directory holds what the store in memory holds. -/
theorem answers_alike (a : Account) {m : Machine} {base : Location}
    (hlook : m.look a.root = .ok (base, .directory [])) (hlimit : m.sizeLimit = none)
    {calls : List Call} (hadmits : a.AdmitsAll {} calls) :
    (a.answerAll m calls).1 = (Store.Account.answerAll {} calls).1 ∧
      ∃ t, (a.answerAll m calls).2.look a.root = .ok (base, t) ∧
        Holds t (Store.Account.answerAll {} calls).2 := by
  obtain ⟨-, hnul, hsize⟩ := walk_of_look hlook
  have hanchored := anchored_of_empty hlook hlimit
  obtain ⟨m', t', hrun, h', hm'⟩ :=
    hadmits.answerAll_eq ⟨_, hanchored, Spelled.empty⟩ hanchored mirrors_empty
  rw [hrun]
  exact ⟨rfl, t', h'.look_root hnul hsize, hm'.toHolds⟩

/-- The name of the only directory of a server. -/
def serverName : Name := Name.ofChars ['s', 'r', 'v']

/-- A server with an empty directory. -/
def emptyServer : Machine := { tree := .directory [(serverName, .directory [])] }

/-- The store in the directory of the server. -/
def serverAccount : Account := ⟨⟨true, [serverName]⟩⟩

/-- The directory of the server is empty. -/
lemma look_emptyServer : emptyServer.look serverAccount.root = .ok ([serverName], .directory []) := by
  cbv

/-- Calls for blobs at several depths, some of which are not there or there already. -/
def nestedCalls : List Call :=
  [.put ⟨"c", "a/b/x"⟩ "1".toUTF8, .put ⟨"c", "a/b/x"⟩ "2".toUTF8, .put ⟨"c", "a/y"⟩ "3".toUTF8,
    .list "c", .deleteBlob ⟨"c", "a/b/x"⟩, .get ⟨"c", "a/b/x"⟩, .put ⟨"c", "a/b"⟩ "4".toUTF8,
    .get ⟨"c", "a/b"⟩, .deleteContainer "d", .put ⟨"d", "z"⟩ "5".toUTF8, .deleteContainer "c",
    .list "c"]

/-- Blobs at several depths are written, refused, listed and deleted alike; a name that was a
directory is free for a blob when nothing is left in it. -/
theorem nested_blobs_alike :
    emptyServer.look serverAccount.root = .ok ([serverName], .directory []) ∧
      emptyServer.sizeLimit = none ∧ serverAccount.AdmitsAll {} nestedCalls ∧
      (serverAccount.answerAll emptyServer nestedCalls).1.map (fun answered => answered.2.isOk) =
        [true, false, true, true, true, false, true, true, false, true, true, false] ∧
      (serverAccount.answerAll emptyServer nestedCalls).1 =
        (Store.Account.answerAll {} nestedCalls).1 ∧
      ∃ t, (serverAccount.answerAll emptyServer nestedCalls).2.look serverAccount.root =
          .ok ([serverName], t) ∧
        Holds t (Store.Account.answerAll {} nestedCalls).2 := by
  have hlook := look_emptyServer
  have hadmits : serverAccount.AdmitsAll {} nestedCalls := by decide +kernel
  have halike := answers_alike serverAccount hlook rfl hadmits
  have hoks : (serverAccount.answerAll emptyServer nestedCalls).1.map
      (fun answered => answered.2.isOk) =
        [true, false, true, true, true, false, true, true, false, true, true, false] := by
    rw [halike.1]
    decide +kernel
  exact ⟨hlook, rfl, hadmits, hoks, halike⟩

end ClaimCheck.Disk
