import Mathlib
import ClaimCheck.Proofs.Deletion.Phase

/-!
# What deletions leave of a container

While deletions go on side by side and nobody else changes the container, its contents are known
from where they started and from the standings of the deletions (`Contents`): exactly the blobs
whose deletion succeeded are gone.

A listing may be out of date when its deletion goes on, but the container only shrinks, so a listing
with one name still says that there is at most one blob (`Contents.lone`).  A deletion that succeeds
after such a listing therefore leaves nothing (`Contents.bare`), no other deletion succeeds after
it, and no second one ever gets to delete the container (`Contents.sole`).
-/

namespace ClaimCheck

open Store

variable {ι : Type} {d : DeletionCalls ι} {start a b : Account}
  {standing : ι → Standing} {i : ι}

/-! ## Standings -/

/-- Who deleted the container deleted its last blob. -/
lemma Standing.Took.bare {st : Standing} (h : st.Took) : st.Bare := by
  unfold Standing.Took at h
  split at h
  · trivial
  · exact h.elim

/-- Who deleted the last blob deleted a blob. -/
lemma Standing.Bare.deleted {st : Standing} (h : st.Bare) : st.Deleted := by
  unfold Standing.Bare at h
  split at h
  · trivial
  · trivial
  · exact h.elim

/-- A refused deletion has deleted nothing. -/
lemma Standing.not_deleted_failed {fault : Store.Fault} :
    ¬ (Standing.settled (.failed fault)).Deleted := id

/-- A deletion that has only listed has deleted nothing. -/
lemma Standing.not_deleted_listed {names : List String} : ¬ (Standing.listed names).Deleted := id

/-- What comes to hold of the standing of one deletion comes to hold of no other. -/
lemma Standing.update_iff_or [DecidableEq ι] (P : Standing → Prop) {st : Standing} {E : Prop}
    (hP : P st ↔ P (standing i) ∨ E) (j : ι) :
    P (Function.update standing i st j) ↔ P (standing j) ∨ (j = i ∧ E) := by
  rcases eq_or_ne j i with rfl | hj
  · rw [Function.update_self, hP]
    simp
  · rw [Function.update_of_ne hj]
    simp [hj]

/-- What holds of two standings alike holds of the same deletions after one of them went from the
first standing to the second. -/
lemma Standing.update_iff [DecidableEq ι] (P : Standing → Prop) {st : Standing}
    (hP : P st ↔ P (standing i)) (j : ι) :
    P (Function.update standing i st j) ↔ P (standing j) := by
  have hor : P st ↔ P (standing i) ∨ False := by
    rw [or_false, hP]
  rw [update_iff_or P hor, and_false, or_false]

/-- Who has deleted nothing is as before when another deletion went on to have deleted its blob. -/
lemma Standing.eq_of_update_eq [DecidableEq ι] {st st' : Standing} {j : ι} (hnew : st.Deleted)
    (hold : ¬ st'.Deleted) (hj : Function.update standing i st j = st') : standing j = st' := by
  rcases eq_or_ne j i with rfl | hne
  · rw [Function.update_self] at hj
    subst hj
    exact absurd hnew hold
  · rwa [Function.update_of_ne hne] at hj

/-- After its deletion the blob is deleted. -/
lemma Standing.deleted_afterDelete (names : List String) :
    (afterDelete names (.ok ())).Deleted := by
  rw [afterDelete]
  split <;> trivial

/-- After the deletion of the blob the container is not deleted yet. -/
lemma Standing.not_took_afterDelete (names : List String) :
    ¬ (afterDelete names (.ok ())).Took := by
  rw [afterDelete]
  split <;> exact id

/-- After the deletion of the blob the container is next if one name was listed. -/
lemma Standing.bare_afterDelete (names : List String) :
    (afterDelete names (.ok ())).Bare ↔ names.length = 1 := by
  rw [afterDelete]
  split
  · next hone => exact iff_of_true trivial hone
  · next hmore => exact iff_of_false id hmore

/-! ## The contents of the container -/

/-- The contents of the container of the deletions. -/
def DeletionCalls.contents (d : DeletionCalls ι) (a : Account) : Option Blobs :=
  a.containers.get? d.container

/-- A blob of the container of the deletions. -/
def DeletionCalls.blob? (d : DeletionCalls ι) (a : Account) (x : String) : Option ByteArray :=
  a.blob? ⟨d.container, x⟩

/-- A blob is found in the contents. -/
lemma DeletionCalls.blob?_eq (d : DeletionCalls ι) (a : Account) (x : String) :
    d.blob? a x = (d.contents a).bind (·.get? x) := rfl

/-- The blobs are the same where the contents are. -/
lemma DeletionCalls.blob?_congr (h : d.contents b = d.contents a) (x : String) :
    d.blob? b x = d.blob? a x := by
  rw [blob?_eq, blob?_eq, h]

/-- A container that has a blob is there. -/
lemma DeletionCalls.contents_ne_none {x : String} (hpresent : d.blob? a x ≠ none) :
    d.contents a ≠ none := by
  intro hnone
  rw [DeletionCalls.blob?_eq, hnone] at hpresent
  exact hpresent rfl

/-- The container after a call to delete a blob. -/
lemma DeletionCalls.contents_deleteBlob (havailable : a.isUnavailable = false) :
    d.contents (a.answer (.deleteBlob (d.place i))).2 =
      (d.contents a).map (·.erase (d.name i)) :=
  (Account.get?_answer_deleteBlob havailable (d.place i) d.container).trans (if_pos rfl)

/-- The blobs after a call to delete one. -/
lemma DeletionCalls.blob?_deleteBlob (havailable : a.isUnavailable = false) (x : String) :
    d.blob? (a.answer (.deleteBlob (d.place i))).2 x =
      if x = d.name i then none else d.blob? a x := by
  rw [DeletionCalls.blob?_eq, DeletionCalls.contents_deleteBlob havailable, DeletionCalls.blob?_eq]
  cases d.contents a with
  | none => simp
  | some blobs => simp [Keyed.get?_erase]

/-- There is at most one blob in the container. -/
def DeletionCalls.AtMostOne (d : DeletionCalls ι) (a : Account) : Prop :=
  ∀ x y, d.blob? a x ≠ none → d.blob? a y ≠ none → x = y

/-- A container that is there without a blob is empty. -/
lemma DeletionCalls.contents_eq_empty (hthere : d.contents a ≠ none)
    (hbare : ∀ x, d.blob? a x = none) : d.contents a = some Keyed.empty := by
  obtain ⟨blobs, hblobs⟩ := Option.ne_none_iff_exists'.mp hthere
  rw [hblobs]
  congr 1
  refine Keyed.eq_empty fun x => ?_
  have := hbare x
  rwa [DeletionCalls.blob?_eq, hblobs, Option.bind_some] at this

/-- The contents of the container, known from the contents at the start and from what the deletions
have done so far. -/
structure Contents (d : DeletionCalls ι) (start a : Account) (standing : ι → Standing) : Prop where
  available : a.isUnavailable = false
  gone : ∀ i, (standing i).Deleted → d.blob? a (d.name i) = none
  kept : ∀ x, (∀ i, d.name i = x → ¬ (standing i).Deleted) → d.blob? a x = d.blob? start x
  existed : ∀ i, (standing i).Deleted → d.blob? start (d.name i) ≠ none
  lone : ∀ i names, standing i = .listed names → names.length = 1 → d.AtMostOne a
  bare : ∀ i, (standing i).Bare → ∀ x, d.blob? a x = none
  sole : ∀ i j, (standing i).Bare → (standing j).Bare → i = j
  there : d.contents a = none ↔ d.contents start = none ∨ ∃ i, (standing i).Took
  failed : ∀ i fault, standing i = .settled (.failed fault) →
    d.blob? a (d.name i) = none ∧
      (fault = .blobNotFound (d.place i) ∨ fault = .containerNotFound d.container)

namespace Contents

/-- At the start nothing was deleted. -/
lemma initial (havailable : start.isUnavailable = false) :
    Contents d start start fun _ => .waiting where
  available := havailable
  gone := fun _ h => h.elim
  kept := fun _ _ => rfl
  existed := fun _ h => h.elim
  lone := by
    intro i names h
    cases h
  bare := fun _ h => h.elim
  sole := fun _ _ h => h.elim
  there := ⟨.inl, fun h => h.elim id fun ⟨_, htook⟩ => htook.elim⟩
  failed := by
    intro i fault h
    cases h

/-- Only the contents of the container count. -/
lemma of_same (h : Contents d start a standing) (havailable : b.isUnavailable = false)
    (hsame : d.contents b = d.contents a) : Contents d start b standing where
  available := havailable
  gone := fun i hi => by rw [DeletionCalls.blob?_congr hsame, h.gone i hi]
  kept := fun x hx => by rw [DeletionCalls.blob?_congr hsame, h.kept x hx]
  existed := h.existed
  lone := by
    intro i names hi hone x y hx hy
    rw [DeletionCalls.blob?_congr hsame] at hx hy
    exact h.lone i names hi hone x y hx hy
  bare := fun i hi x => by rw [DeletionCalls.blob?_congr hsame, h.bare i hi x]
  sole := h.sole
  there := by rw [hsame, h.there]
  failed := by
    intro i fault hi
    rw [DeletionCalls.blob?_congr hsame]
    exact h.failed i fault hi

/-- A blob that is there was there at the start, and no deletion of it has succeeded. -/
lemma not_deleted_of_present (h : Contents d start a standing) {x : String}
    (hx : d.blob? a x ≠ none) (j : ι) (hj : d.name j = x) : ¬ (standing j).Deleted := by
  intro hdeleted
  rw [← hj] at hx
  exact hx (h.gone j hdeleted)

/-- While a blob is there, no deletion has deleted the last blob. -/
lemma not_bare_of_present (h : Contents d start a standing) {x : String}
    (hx : d.blob? a x ≠ none) (j : ι) : ¬ (standing j).Bare :=
  fun hbare => hx (h.bare j hbare x)

/-- Before the container is deleted it is there and empty. -/
lemma contents_of_emptied (h : Contents d start a standing) (hemptied : standing i = .emptied) :
    d.contents a = some Keyed.empty := by
  have hbare : (standing i).Bare := by
    rw [hemptied]
    trivial
  refine DeletionCalls.contents_eq_empty ?_ (h.bare i hbare)
  intro hnone
  rcases h.there.mp hnone with hstart | ⟨j, hj⟩
  · exact DeletionCalls.contents_ne_none (h.existed i hbare.deleted) hstart
  · -- only one deletion gets so far
    rw [h.sole j i hj.bare hbare, hemptied] at hj
    exact hj

/-- The container is deleted when it is asked for. -/
lemma answer_of_emptied (h : Contents d start a standing) (hemptied : standing i = .emptied) :
    (a.answer (.deleteContainer d.container)).1 = .ok () :=
  Account.answer_deleteContainer_of_some h.available (h.contents_of_emptied hemptied)

/-- A blob that is there is deleted when that is asked for. -/
lemma answer_of_present (h : Contents d start a standing) (hpresent : d.blob? a (d.name i) ≠ none) :
    (a.answer (.deleteBlob (d.place i))).1 = .ok () :=
  Account.answer_deleteBlob_of_present h.available hpresent

/-- The deletion of a blob that is not there is refused. -/
lemma answer_of_missing (h : Contents d start a standing) (hmissing : d.blob? a (d.name i) = none) :
    ∃ fault, (a.answer (.deleteBlob (d.place i))).1 = .error fault ∧
      (fault = .blobNotFound (d.place i) ∨ fault = .containerNotFound d.container) :=
  Account.answer_deleteBlob_of_missing h.available hmissing

/-- A blob that was there at the start is gone exactly when a deletion of it succeeded. -/
lemma blob?_eq_none_iff (h : Contents d start a standing) {x : String}
    (hstart : d.blob? start x ≠ none) :
    d.blob? a x = none ↔ ∃ j, d.name j = x ∧ (standing j).Deleted := by
  constructor
  · intro hnone
    by_contra hkept
    rw [h.kept x fun j hj hdeleted => hkept ⟨j, hj, hdeleted⟩] at hnone
    exact hstart hnone
  · rintro ⟨j, rfl, hdeleted⟩
    exact h.gone j hdeleted

/-- A blob whose deletion succeeds is there. -/
lemma present_of_answer (h : Contents d start a standing)
    (hok : (a.answer (.deleteBlob (d.place i))).1.isOk = true) : d.blob? a (d.name i) ≠ none := by
  intro hmissing
  obtain ⟨fault, hfault, -⟩ := h.answer_of_missing hmissing
  rw [hfault] at hok
  cases hok

variable [DecidableEq ι]

/-- A deletion that has deleted nothing goes on without deleting anything: it has listed the
container, or it was refused. -/
lemma update (h : Contents d start a standing) {st : Standing} (hold : ¬ (standing i).Deleted)
    (hnew : ¬ st.Deleted)
    (hlone : ∀ names, st = .listed names → names.length = 1 → d.AtMostOne a)
    (hfailed : ∀ fault, st = .settled (.failed fault) → d.blob? a (d.name i) = none ∧
      (fault = .blobNotFound (d.place i) ∨ fault = .containerNotFound d.container)) :
    Contents d start a (Function.update standing i st) := by
  -- who deleted what is the same before and after
  have hdeleted := Standing.update_iff Standing.Deleted (iff_of_false hnew hold)
  have hbare := Standing.update_iff Standing.Bare
    (iff_of_false (fun h : st.Bare => hnew h.deleted) fun h => hold h.deleted)
  have htook := Standing.update_iff Standing.Took
    (iff_of_false (fun h : st.Took => hnew h.bare.deleted) fun h => hold h.bare.deleted)
  refine ⟨h.available, fun j hj => h.gone j ((hdeleted j).mp hj),
    fun x hx => h.kept x fun j hj => ?_, fun j hj => h.existed j ((hdeleted j).mp hj), ?_,
    fun j hj => h.bare j ((hbare j).mp hj),
    fun j k hj hk => h.sole j k ((hbare j).mp hj) ((hbare k).mp hk), ?_, ?_⟩
  · rw [← hdeleted]
    exact hx j hj
  · intro j names hj
    rcases eq_or_ne j i with rfl | hne
    · rw [Function.update_self] at hj
      exact hlone names hj
    · rw [Function.update_of_ne hne] at hj
      exact h.lone j names hj
  · simp only [htook, h.there]
  · intro j fault hj
    rcases eq_or_ne j i with rfl | hne
    · rw [Function.update_self] at hj
      exact hfailed fault hj
    · rw [Function.update_of_ne hne] at hj
      exact h.failed j fault hj

/-- A blob that is there is deleted.  If it was listed alone, nothing is left. -/
lemma delete (h : Contents d start a standing) {names : List String}
    (hlisted : standing i = .listed names) (hpresent : d.blob? a (d.name i) ≠ none) :
    Contents d start (a.answer (.deleteBlob (d.place i))).2
      (Function.update standing i (.afterDelete names (.ok ()))) := by
  set b := (a.answer (.deleteBlob (d.place i))).2 with hb
  have hblob : ∀ x, d.blob? b x = if x = d.name i then none else d.blob? a x :=
    DeletionCalls.blob?_deleteBlob h.available
  have hshrinks : ∀ x, d.blob? b x ≠ none → d.blob? a x ≠ none := by
    intro x hx
    rw [hblob] at hx
    split at hx
    · exact absurd rfl hx
    · exact hx
  have hnew := Standing.deleted_afterDelete names
  have hdeletes : (Standing.afterDelete names (.ok ())).Deleted ↔ (standing i).Deleted ∨ True :=
    iff_of_true hnew (.inr trivial)
  have hdeleted := Standing.update_iff_or Standing.Deleted hdeletes
  have hnotbare := h.not_bare_of_present hpresent
  have hempties : (Standing.afterDelete names (.ok ())).Bare ↔
      (standing i).Bare ∨ names.length = 1 := by
    rw [Standing.bare_afterDelete, or_iff_right (hnotbare i)]
  have hbare : ∀ j, (Function.update standing i (.afterDelete names (.ok ())) j).Bare →
      j = i ∧ names.length = 1 :=
    fun j hj => ((Standing.update_iff_or Standing.Bare hempties j).mp hj).resolve_left (hnotbare j)
  have htook := Standing.update_iff Standing.Took
    (iff_of_false (Standing.not_took_afterDelete names) fun htook => hnotbare i htook.bare)
  refine ⟨?_, ?_, ?_, ?_, ?_, ?_, ?_, ?_, ?_⟩
  · rw [hb, Account.isUnavailable_answer, h.available]
  · intro j hj
    rw [hblob]
    rcases (hdeleted j).mp hj with hbefore | ⟨rfl, -⟩
    · rw [h.gone j hbefore, ite_self]
    · rw [if_pos rfl]
  · intro x hx
    have hname : x ≠ d.name i := by
      rintro rfl
      exact hx i rfl ((hdeleted i).mpr (.inr ⟨rfl, trivial⟩))
    rw [hblob, if_neg hname]
    exact h.kept x fun j hj hbefore => hx j hj ((hdeleted j).mpr (.inl hbefore))
  · intro j hj
    rcases (hdeleted j).mp hj with hbefore | ⟨rfl, -⟩
    · exact h.existed j hbefore
    · rw [← h.kept _ (h.not_deleted_of_present hpresent)]
      exact hpresent
  · intro j others hj hone x y hx hy
    have hbefore := Standing.eq_of_update_eq hnew Standing.not_deleted_listed hj
    exact h.lone j others hbefore hone x y (hshrinks x hx) (hshrinks y hy)
  · intro j hj x
    obtain ⟨rfl, hone⟩ := hbare j hj
    by_contra hx
    have hsame := h.lone j names hlisted hone x (d.name j) (hshrinks x hx) hpresent
    rw [hblob, if_pos hsame] at hx
    exact hx rfl
  · intro j k hj hk
    rw [(hbare j hj).1, (hbare k hk).1]
  · -- the container is there before and after
    simp only [htook]
    rw [← h.there, hb, DeletionCalls.contents_deleteBlob h.available, Option.map_eq_none_iff]
  · intro j fault hj
    have hbefore := Standing.eq_of_update_eq hnew Standing.not_deleted_failed hj
    obtain ⟨hgone, hfault⟩ := h.failed j fault hbefore
    rw [hblob, hgone, ite_self]
    exact ⟨rfl, hfault⟩

/-- The empty container is deleted. -/
lemma empty (h : Contents d start a standing) (hemptied : standing i = .emptied) :
    Contents d start (a.answer (.deleteContainer d.container)).2
      (Function.update standing i (.settled (.deleted true))) := by
  set b := (a.answer (.deleteContainer d.container)).2 with hb
  have hbefore := h.contents_of_emptied hemptied
  have hcontents : d.contents b = none := by
    rw [hb]
    exact (Account.get?_answer_deleteContainer h.available d.container d.container).trans
      (if_pos rfl)
  have hnothing : ∀ x, d.blob? a x = none := by
    intro x
    rw [DeletionCalls.blob?_eq, hbefore]
    rfl
  have hblob : ∀ x, d.blob? b x = d.blob? a x := by
    intro x
    rw [hnothing, DeletionCalls.blob?_eq, hcontents]
    rfl
  have hold : (standing i).Bare := by
    rw [hemptied]
    trivial
  have hnew : (Standing.settled (.deleted true)).Bare := trivial
  have hdeleted := Standing.update_iff Standing.Deleted (iff_of_true hnew.deleted hold.deleted)
  have hbare := Standing.update_iff Standing.Bare (iff_of_true hnew hold)
  refine ⟨?_, ?_, ?_, fun j hj => h.existed j ((hdeleted j).mp hj), ?_, ?_,
    fun j k hj hk => h.sole j k ((hbare j).mp hj) ((hbare k).mp hk), ?_, ?_⟩
  · rw [hb, Account.isUnavailable_answer, h.available]
  · intro j hj
    rw [hblob]
    exact h.gone j ((hdeleted j).mp hj)
  · intro x hx
    rw [hblob]
    exact h.kept x fun j hj => by rw [← hdeleted]; exact hx j hj
  · intro j names hj hone x y hx
    rw [hblob, hnothing] at hx
    exact absurd rfl hx
  · intro j hj x
    rw [hblob, hnothing]
  · refine ⟨fun _ => .inr ⟨i, ?_⟩, fun _ => hcontents⟩
    rw [Function.update_self]
    trivial
  · intro j fault hj
    rw [hblob]
    exact h.failed j fault (Standing.eq_of_update_eq hnew.deleted Standing.not_deleted_failed hj)

/-- A deletion whose blob is not there is refused, and the contents stay. -/
lemma refuse (h : Contents d start a standing) {names : List String}
    (hlisted : standing i = .listed names) (hmissing : d.blob? a (d.name i) = none)
    {fault : Store.Fault}
    (hfault : fault = .blobNotFound (d.place i) ∨ fault = .containerNotFound d.container) :
    Contents d start (a.answer (.deleteBlob (d.place i))).2
      (Function.update standing i (.settled (.failed fault))) := by
  have hcontents : d.contents (a.answer (.deleteBlob (d.place i))).2 = d.contents a := by
    rw [DeletionCalls.contents_deleteBlob h.available]
    rw [DeletionCalls.blob?_eq] at hmissing
    cases hbefore : d.contents a with
    | none => rfl
    | some blobs =>
      rw [hbefore, Option.bind_some] at hmissing
      rw [Option.map_some, Keyed.erase_eq_self hmissing]
  refine (h.update (i := i) ?_ Standing.not_deleted_failed ?_ ?_).of_same
    (by rw [Account.isUnavailable_answer, h.available]) hcontents
  · rw [hlisted]
    exact Standing.not_deleted_listed
  · intro names hst
    cases hst
  · intro other hst
    cases hst
    exact ⟨hmissing, hfault⟩

/-- A listing says what is there. -/
lemma list (h : Contents d start a standing) (hwaiting : standing i = .waiting) :
    Contents d start (a.answer (.list d.container)).2
      (Function.update standing i (.afterList (a.answer (.list d.container)).1)) := by
  have hcontents : d.contents (a.answer (.list d.container)).2 = d.contents a := by
    unfold DeletionCalls.contents
    rw [Account.containers_answer_of_reads (.inr ⟨d.container, rfl⟩)]
  have hold : ¬ (standing i).Deleted := by
    rw [hwaiting]
    exact id
  have havailable : (a.answer (.list d.container)).2.isUnavailable = false := by
    rw [Account.isUnavailable_answer, h.available]
  cases hbefore : d.contents a with
  | none =>
    rw [Account.answer_list_of_none h.available hbefore]
    refine (h.update hold Standing.not_deleted_failed ?_ ?_).of_same havailable hcontents
    · intro names hst
      cases hst
    · intro fault hst
      cases hst
      rw [DeletionCalls.blob?_eq, hbefore]
      exact ⟨rfl, .inr rfl⟩
  | some blobs =>
    rw [Account.answer_list_of_some h.available hbefore]
    refine (h.update hold Standing.not_deleted_listed ?_ ?_).of_same havailable hcontents
    · intro names hst hone x y hx hy
      cases hst
      obtain ⟨z, hz⟩ := List.length_eq_one_iff.mp hone
      rw [DeletionCalls.blob?_eq, hbefore, Option.bind_some, Option.ne_none_iff_exists',
        ← Keyed.mem_keys, hz, List.mem_singleton] at hx hy
      rw [hx, hy]
    · intro fault hst
      cases hst

/-- Whatever a deletion asks for, the contents are known afterwards. -/
lemma moves (h : Contents d start a standing) {r : Request} {st : Standing}
    (hmoves : Standing.Moves d i a (standing i) r st) :
    Contents d start ((Happening.asked r).onAccount d.account a)
      (Function.update standing i st) := by
  have hcall : ∀ call : Call,
      (Happening.asked (.call d.client call)).onAccount d.account a = (a.answer call).2 :=
    fun _ => if_pos rfl
  generalize hold : standing i = old at hmoves
  cases hmoves with
  | quiet _ hr =>
    have hquiet : (Happening.asked r).onAccount d.account a = a := by
      cases r with
      | call client call => exact absurd rfl (hr client call)
      | _ => rfl
    rw [hquiet, ← hold, Function.update_eq_self]
    exact h
  | list =>
    rw [hcall]
    exact h.list hold
  | delete names =>
    rw [hcall]
    by_cases hblob : d.blob? a (d.name i) = none
    · obtain ⟨fault, hfault, hkind⟩ := h.answer_of_missing hblob
      rw [hfault]
      exact h.refuse hold hblob hkind
    · rw [h.answer_of_present hblob]
      exact h.delete hold hblob
  | empty =>
    rw [hcall, h.answer_of_emptied hold]
    exact h.empty hold

end Contents

end ClaimCheck
