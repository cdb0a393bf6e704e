import Mathlib
import ClaimCheck.Proofs.Keyed
import ClaimCheck.Store.Account

/-!
# What calls do to an account

The contents of an account are its containers, and a container is known from what `Keyed.get?` finds
in it.  For each call this file gives the container that the call names after it was answered and
the outcome of the call, both from the container before.  A call leaves every other container as it
was, and an account that is unavailable keeps all of them.

A put is `Keyed.insertIfNew`, so what a blob holds never changes by a put; the deletion of a blob is
`Keyed.erase`, also where there is no such blob.
-/

namespace ClaimCheck.Store

/-- The container that a call names. -/
def Call.container : Call → String
  | .put place _ => place.container
  | .get place => place.container
  | .deleteBlob place => place.container
  | .list container => container
  | .deleteContainer container => container

/-- Whether a call asks to drop a blob, alone or with its container. -/
def Call.Drops (place : Locator) : Call → Prop
  | .deleteBlob other => other = place
  | .deleteContainer container => container = place.container
  | _ => False

/-- Whether a call asks to change a container. -/
def Call.Changes (container : String) : Call → Prop
  | .put place _ => place.container = container
  | .deleteBlob place => place.container = container
  | .deleteContainer other => other = container
  | _ => False

namespace Account

variable {a : Account} {place : Locator}

/-! ## Blobs and containers -/

/-- A blob is found in its container. -/
lemma blob?_eq (a : Account) (place : Locator) :
    a.blob? place = (a.containers.get? place.container).bind (·.get? place.name) := rfl

/-- A container is there when it is found. -/
lemma hasContainer_eq (a : Account) (container : String) :
    a.hasContainer container = (a.containers.get? container).isSome := rfl

/-- The container after a blob was placed in it. -/
lemma get?_seed (a : Account) (place : Locator) (data : ByteArray) (k : String) :
    (a.seed place data).containers.get? k =
      if k = place.container then
        some (((a.containers.get? k).getD Keyed.empty).insert place.name data)
      else a.containers.get? k := by
  unfold seed
  rw [Keyed.get?_insert]
  split
  · next h => rw [h]
  · rfl

/-- The blobs after one was placed. -/
lemma blob?_seed (a : Account) (place : Locator) (data : ByteArray) (other : Locator) :
    (a.seed place data).blob? other = if other = place then some data else a.blob? other := by
  rw [blob?_eq, get?_seed]
  by_cases hc : other.container = place.container
  · rw [if_pos hc, Option.bind_some, Keyed.get?_insert]
    by_cases hn : other.name = place.name
    · rw [if_pos hn, if_pos (Locator.ext hc hn)]
    · rw [if_neg hn, if_neg fun h => hn (congrArg Locator.name h), blob?_eq]
      cases a.containers.get? other.container <;> rfl
  · rw [if_neg hc, if_neg fun h => hc (congrArg Locator.container h), blob?_eq]

/-- The container after it was made unless it was there. -/
lemma get?_createContainer (a : Account) (container k : String) :
    (a.createContainer container).containers.get? k =
      if k = container then some ((a.containers.get? k).getD Keyed.empty)
      else a.containers.get? k := by
  unfold createContainer
  rw [Keyed.get?_insertIfNew]
  split
  · next h => rw [h]
  · rfl

/-- Making a container makes no blob and drops none. -/
lemma blob?_createContainer (a : Account) (container : String) (place : Locator) :
    (a.createContainer container).blob? place = a.blob? place := by
  rw [blob?_eq, get?_createContainer, blob?_eq]
  split
  · cases a.containers.get? place.container <;> rfl
  · rfl

/-! ## The answer to a call -/

/-- The log is no part of the contents. -/
@[simp] lemma containers_record (a : Account) (call : Call) :
    (a.record call).containers = a.containers := rfl

/-- An account that is unavailable refuses every call. -/
lemma answer_of_unavailable (h : a.isUnavailable = true) (call : Call) :
    a.answer call = (.error .unavailable, a.record call) := by
  unfold answer
  rw [if_pos (by exact h)]

/-- An account that is available logs a call and does what it asks. -/
lemma answer_of_available (h : a.isUnavailable = false) (call : Call) :
    a.answer call = (a.record call).perform call := by
  unfold answer
  rw [if_neg (by rw [record, h]; exact Bool.false_ne_true)]

/-- A call does not make an account available or unavailable. -/
lemma isUnavailable_answer (a : Account) (call : Call) :
    (a.answer call).2.isUnavailable = a.isUnavailable := by
  cases h : a.isUnavailable with
  | true => rw [answer_of_unavailable h]; exact h
  | false =>
    rw [answer_of_available h]
    cases call <;> simp only [perform] <;> repeat' split
    all_goals exact h

/-- A call that is refused since the account is unavailable leaves all containers as they were. -/
lemma containers_answer_of_unavailable (h : a.isUnavailable = true) (call : Call) :
    (a.answer call).2.containers = a.containers := by
  rw [answer_of_unavailable h]
  rfl

/-- A put of a name that is free makes the container and places the blob. -/
lemma answer_put_of_free (h : a.isUnavailable = false) (hfree : a.blob? place = none)
    (data : ByteArray) :
    a.answer (.put place data) =
      (.ok (), ((a.record (.put place data)).createContainer place.container).seed place data) := by
  rw [answer_of_available h]
  have hnone :
      ((a.record (.put place data)).createContainer place.container).blob? place = none := by
    rw [blob?_createContainer]
    exact hfree
  simp only [perform, hnone]

/-- A put of a name that is taken is refused and makes at most the container. -/
lemma answer_put_of_taken {old : ByteArray} (h : a.isUnavailable = false)
    (htaken : a.blob? place = some old) (data : ByteArray) :
    a.answer (.put place data) =
      (.error (.blobExists place),
        (a.record (.put place data)).createContainer place.container) := by
  rw [answer_of_available h]
  have hsome :
      ((a.record (.put place data)).createContainer place.container).blob? place = some old := by
    rw [blob?_createContainer]
    exact htaken
  simp only [perform, hsome]

/-- A put makes the container, and adds its blob if there is none of that name. -/
lemma get?_answer_put (h : a.isUnavailable = false) (place : Locator) (data : ByteArray)
    (k : String) :
    (a.answer (.put place data)).2.containers.get? k =
      if k = place.container then
        some (((a.containers.get? k).getD Keyed.empty).insertIfNew place.name data)
      else a.containers.get? k := by
  cases hblob : a.blob? place with
  | none =>
    rw [answer_put_of_free h hblob, get?_seed, get?_createContainer]
    split
    · next hk =>
      subst hk
      have hnew :
          ((a.containers.get? place.container).getD Keyed.empty).get? place.name = none := by
        rw [blob?_eq] at hblob
        cases hc : a.containers.get? place.container with
        | none => rfl
        | some blobs => rwa [hc] at hblob
      unfold Keyed.insertIfNew Keyed.contains
      rw [hnew]
      rfl
    · rfl
  | some old =>
    rw [answer_put_of_taken h hblob, get?_createContainer]
    split
    · next hk =>
      subst hk
      have hold :
          ((a.containers.get? place.container).getD Keyed.empty).get? place.name = some old := by
        rw [blob?_eq] at hblob
        cases hc : a.containers.get? place.container with
        | none => rw [hc] at hblob; cases hblob
        | some blobs => rwa [hc] at hblob
      unfold Keyed.insertIfNew Keyed.contains
      rw [hold]
      rfl
    · rfl

/-- The blobs after a put: a name that was taken keeps its bytes. -/
lemma blob?_answer_put (h : a.isUnavailable = false) (place : Locator) (data : ByteArray)
    (other : Locator) :
    (a.answer (.put place data)).2.blob? other =
      if other = place then some ((a.blob? place).getD data) else a.blob? other := by
  have hmade : ((a.record (.put place data)).createContainer place.container).blob? other =
      a.blob? other := blob?_createContainer _ _ _
  cases hblob : a.blob? place with
  | none =>
    rw [answer_put_of_free h hblob, blob?_seed, hmade, Option.getD_none]
  | some old =>
    rw [answer_put_of_taken h hblob, hmade, Option.getD_some]
    split
    · next heq => rw [heq, hblob]
    · rfl

/-- A put that succeeds has placed the bytes. -/
lemma blob?_answer_put_of_ok {data : ByteArray} (hok : (a.answer (.put place data)).1 = .ok ()) :
    (a.answer (.put place data)).2.blob? place = some data := by
  cases havailable : a.isUnavailable with
  | true =>
    rw [answer_of_unavailable havailable] at hok
    cases hok
  | false =>
    cases hblob : a.blob? place with
    | some old =>
      rw [answer_put_of_taken havailable hblob] at hok
      cases hok
    | none => rw [blob?_answer_put havailable, if_pos rfl, hblob, Option.getD_none]

/-- A call that reads a blob or lists a container leaves all containers as they were. -/
lemma containers_answer_of_reads {call : Call}
    (hreads : (∃ place, call = .get place) ∨ ∃ container, call = .list container) :
    (a.answer call).2.containers = a.containers := by
  cases h : a.isUnavailable with
  | true => exact containers_answer_of_unavailable h call
  | false =>
    rw [answer_of_available h]
    rcases hreads with ⟨place, rfl⟩ | ⟨container, rfl⟩
    · simp only [perform]
      repeat' split
      all_goals rfl
    · simp only [perform]
      split <;> rfl

/-- A blob that is there is read. -/
lemma answer_get_of_some {data : ByteArray} (h : a.isUnavailable = false)
    (hblob : a.blob? place = some data) : (a.answer (.get place)).1 = .ok data := by
  rw [blob?_eq] at hblob
  obtain ⟨blobs, hc, hn⟩ := Option.bind_eq_some_iff.mp hblob
  rw [answer_of_available h]
  simp only [perform, containers_record, hc, hn]

/-- A container that is there is listed by the names of its blobs. -/
lemma answer_list_of_some {container : String} {blobs : Blobs} (h : a.isUnavailable = false)
    (hblobs : a.containers.get? container = some blobs) :
    (a.answer (.list container)).1 = .ok blobs.keys := by
  rw [answer_of_available h]
  simp only [perform, containers_record, hblobs]

/-- A container that is not there is not listed. -/
lemma answer_list_of_none {container : String} (h : a.isUnavailable = false)
    (hnone : a.containers.get? container = none) :
    (a.answer (.list container)).1 = .error (.containerNotFound container) := by
  rw [answer_of_available h]
  simp only [perform, containers_record, hnone]

/-- A blob that is there is deleted. -/
lemma answer_deleteBlob_of_present (h : a.isUnavailable = false)
    (hpresent : a.blob? place ≠ none) : (a.answer (.deleteBlob place)).1 = .ok () := by
  obtain ⟨data, hdata⟩ := Option.ne_none_iff_exists'.mp hpresent
  rw [blob?_eq] at hdata
  obtain ⟨blobs, hc, hn⟩ := Option.bind_eq_some_iff.mp hdata
  rw [answer_of_available h]
  simp only [perform, containers_record, hc, hn]

/-- The deletion of a blob that is not there is refused, and the refusal says whether the container
is there. -/
lemma answer_deleteBlob_of_missing (h : a.isUnavailable = false) (hmissing : a.blob? place = none) :
    ∃ fault, (a.answer (.deleteBlob place)).1 = .error fault ∧
      (fault = .blobNotFound place ∨ fault = .containerNotFound place.container) := by
  rw [answer_of_available h]
  rw [blob?_eq] at hmissing
  cases hc : a.containers.get? place.container with
  | none =>
    refine ⟨.containerNotFound place.container, ?_, .inr rfl⟩
    simp only [perform, containers_record, hc]
  | some blobs =>
    rw [hc, Option.bind_some] at hmissing
    refine ⟨.blobNotFound place, ?_, .inl rfl⟩
    simp only [perform, containers_record, hc, hmissing]

/-- Deleting a blob drops it from its container, which stays. -/
lemma get?_answer_deleteBlob (h : a.isUnavailable = false) (place : Locator) (k : String) :
    (a.answer (.deleteBlob place)).2.containers.get? k =
      if k = place.container then (a.containers.get? k).map (·.erase place.name)
      else a.containers.get? k := by
  rw [answer_of_available h]
  simp only [perform, containers_record]
  by_cases hk : k = place.container
  · subst hk
    rw [if_pos rfl]
    cases hc : a.containers.get? place.container with
    | none => exact hc
    | some blobs =>
      dsimp only
      cases hn : blobs.get? place.name with
      | none =>
        rw [Option.map_some, Keyed.erase_eq_self hn]
        exact hc
      | some data => exact Keyed.get?_insert_self _ _ _
  · rw [if_neg hk]
    cases a.containers.get? place.container with
    | none => rfl
    | some blobs =>
      dsimp only
      cases blobs.get? place.name with
      | none => rfl
      | some data => exact Keyed.get?_insert_of_ne _ hk _

/-- Deleting a blob that is not there leaves every container as it was. -/
lemma get?_answer_deleteBlob_of_missing (h : a.isUnavailable = false)
    (hmissing : a.blob? place = none) (k : String) :
    (a.answer (.deleteBlob place)).2.containers.get? k = a.containers.get? k := by
  rw [get?_answer_deleteBlob h]
  split
  · next hk =>
    subst hk
    rw [blob?_eq] at hmissing
    cases hblobs : a.containers.get? place.container with
    | none => rfl
    | some blobs =>
      rw [hblobs, Option.bind_some] at hmissing
      rw [Option.map_some, Keyed.erase_eq_self hmissing]
  · rfl

/-- A container that is there is deleted. -/
lemma answer_deleteContainer_of_some {container : String} {blobs : Blobs}
    (h : a.isUnavailable = false) (hblobs : a.containers.get? container = some blobs) :
    (a.answer (.deleteContainer container)).1 = .ok () := by
  rw [answer_of_available h]
  simp only [perform, containers_record, hblobs]

/-- Deleting a container drops it with all it holds. -/
lemma get?_answer_deleteContainer (h : a.isUnavailable = false) (container k : String) :
    (a.answer (.deleteContainer container)).2.containers.get? k =
      if k = container then none else a.containers.get? k := by
  rw [answer_of_available h]
  simp only [perform, containers_record]
  by_cases hk : k = container
  · subst hk
    rw [if_pos rfl]
    cases hc : a.containers.get? k with
    | none => exact hc
    | some blobs => exact Keyed.get?_erase_self _ _
  · rw [if_neg hk]
    cases a.containers.get? container with
    | none => rfl
    | some blobs => exact Keyed.get?_erase_of_ne _ hk

/-- A call leaves every container that it does not name as it was. -/
lemma get?_answer_of_ne (a : Account) {call : Call} {k : String} (hk : k ≠ call.container) :
    (a.answer call).2.containers.get? k = a.containers.get? k := by
  cases h : a.isUnavailable with
  | true => rw [containers_answer_of_unavailable h]
  | false =>
    cases call with
    | put place data => exact (get?_answer_put h place data k).trans (if_neg hk)
    | get place => rw [containers_answer_of_reads (.inl ⟨place, rfl⟩)]
    | deleteBlob place => exact (get?_answer_deleteBlob h place k).trans (if_neg hk)
    | list container => rw [containers_answer_of_reads (.inr ⟨container, rfl⟩)]
    | deleteContainer container =>
      exact (get?_answer_deleteContainer h container k).trans (if_neg hk)

/-- A container that a call does not ask to change stays as it was. -/
lemma get?_answer_of_not_changes (a : Account) {call : Call} {container : String}
    (h : ¬ call.Changes container) :
    (a.answer call).2.containers.get? container = a.containers.get? container := by
  cases call with
  | put place data => exact get?_answer_of_ne a (Ne.symm h)
  | get place => rw [containers_answer_of_reads (.inl ⟨place, rfl⟩)]
  | deleteBlob place => exact get?_answer_of_ne a (Ne.symm h)
  | list other => rw [containers_answer_of_reads (.inr ⟨other, rfl⟩)]
  | deleteContainer other => exact get?_answer_of_ne a (Ne.symm h)

/-- A blob stays, and holds what it held, through every call that does not ask to drop it: a put of
its name is refused. -/
lemma blob?_answer_of_not_drops {call : Call} {data : ByteArray} (hblob : a.blob? place = some data)
    (h : ¬ call.Drops place) : (a.answer call).2.blob? place = some data := by
  by_cases hne : place.container = call.container
  · cases hu : a.isUnavailable with
    | true =>
      rw [blob?_eq, containers_answer_of_unavailable hu]
      exact hblob
    | false =>
      obtain ⟨blobs, hc, hn⟩ := Option.bind_eq_some_iff.mp hblob
      cases call with
      | put other data' =>
        change place.container = other.container at hne
        rw [blob?_eq, get?_answer_put hu, if_pos hne, hc, Option.bind_some, Option.getD_some,
          Keyed.get?_insertIfNew]
        split
        · next hname => rw [← hname, hn, Option.getD_some]
        · exact hn
      | get other =>
        rw [blob?_eq, containers_answer_of_reads (.inl ⟨other, rfl⟩)]
        exact hblob
      | deleteBlob other =>
        change place.container = other.container at hne
        have hname : place.name ≠ other.name := fun hname => h (Locator.ext hne.symm hname.symm)
        rw [blob?_eq, get?_answer_deleteBlob hu, if_pos hne, hc, Option.map_some, Option.bind_some,
          Keyed.get?_erase, if_neg hname]
        exact hn
      | list container =>
        rw [blob?_eq, containers_answer_of_reads (.inr ⟨container, rfl⟩)]
        exact hblob
      | deleteContainer container => exact absurd hne.symm h
  · rw [blob?_eq, get?_answer_of_ne a hne]
    exact hblob

/-! ## Calls in one equation each -/

/-- What a read answers. -/
lemma answer_get (h : a.isUnavailable = false) (place : Locator) :
    (a.answer (.get place)).1 =
      match a.containers.get? place.container with
      | none => .error (.containerNotFound place.container)
      | some blobs =>
        match blobs.get? place.name with
        | none => .error (.blobNotFound place)
        | some data => .ok data := by
  rw [answer_of_available h]
  simp only [perform, containers_record]
  cases a.containers.get? place.container with
  | none => rfl
  | some blobs =>
    dsimp only
    cases blobs.get? place.name <;> rfl

/-- What the deletion of a blob answers. -/
lemma answer_deleteBlob (h : a.isUnavailable = false) (place : Locator) :
    (a.answer (.deleteBlob place)).1 =
      match a.containers.get? place.container with
      | none => .error (.containerNotFound place.container)
      | some blobs =>
        match blobs.get? place.name with
        | none => .error (.blobNotFound place)
        | some _ => .ok () := by
  rw [answer_of_available h]
  simp only [perform, containers_record]
  cases a.containers.get? place.container with
  | none => rfl
  | some blobs =>
    dsimp only
    cases blobs.get? place.name <;> rfl

/-- What the deletion of a container answers. -/
lemma answer_deleteContainer (h : a.isUnavailable = false) (container : String) :
    (a.answer (.deleteContainer container)).1 =
      match a.containers.get? container with
      | none => .error (.containerNotFound container)
      | some _ => .ok () := by
  rw [answer_of_available h]
  simp only [perform, containers_record]
  cases a.containers.get? container <;> rfl

/-- The blobs after one was deleted. -/
lemma blob?_answer_deleteBlob (h : a.isUnavailable = false) (place other : Locator) :
    (a.answer (.deleteBlob place)).2.blob? other =
      if other = place then none else a.blob? other := by
  rw [blob?_eq, get?_answer_deleteBlob h, blob?_eq]
  by_cases hcontainer : other.container = place.container
  · rw [if_pos hcontainer]
    cases a.containers.get? other.container with
    | none =>
      split <;> rfl
    | some blobs =>
      rw [Option.map_some, Option.bind_some, Option.bind_some, Keyed.get?_erase]
      by_cases hname : other.name = place.name
      · rw [if_pos hname, if_pos (Locator.ext hcontainer hname)]
      · rw [if_neg hname, if_neg fun heq => hname (congrArg Locator.name heq)]
  · rw [if_neg hcontainer, if_neg fun heq => hcontainer (congrArg Locator.container heq)]

/-- The blobs after a container was deleted. -/
lemma blob?_answer_deleteContainer (h : a.isUnavailable = false) (container : String)
    (other : Locator) :
    (a.answer (.deleteContainer container)).2.blob? other =
      if other.container = container then none else a.blob? other := by
  rw [blob?_eq, get?_answer_deleteContainer h, blob?_eq]
  split <;> rfl

/-! ## Calls that succeed and calls that are refused -/

/-- A put is done exactly if the name is free. -/
lemma perform_put_eq_ok_iff {data : ByteArray} :
    (a.perform (.put place data)).1 = .ok () ↔ a.blob? place = none := by
  cases hblob : a.blob? place <;> simp [perform, blob?_createContainer, hblob]

/-- A put is refused only since the name is taken. -/
lemma perform_put_eq_error_iff {data : ByteArray} {fault : Fault} :
    (a.perform (.put place data)).1 = .error fault ↔
      a.blob? place ≠ none ∧ fault = .blobExists place := by
  cases hblob : a.blob? place <;> simp [perform, blob?_createContainer, hblob, eq_comm]

/-- A read is done exactly if the blob is there. -/
lemma perform_get_eq_ok_iff {data : ByteArray} :
    (a.perform (.get place)).1 = .ok data ↔ a.blob? place = some data := by
  rw [blob?_eq]
  cases hcontainer : a.containers.get? place.container with
  | none => simp [perform, hcontainer]
  | some blobs => cases hblob : blobs.get? place.name <;> simp [perform, hcontainer, hblob]

/-- A read is refused since the container is missing, or the blob in it. -/
lemma perform_get_eq_error_iff {fault : Fault} :
    (a.perform (.get place)).1 = .error fault ↔
      (a.containers.get? place.container = none ∧ fault = .containerNotFound place.container) ∨
        ∃ blobs, a.containers.get? place.container = some blobs ∧
          blobs.get? place.name = none ∧ fault = .blobNotFound place := by
  cases hcontainer : a.containers.get? place.container with
  | none => simp [perform, hcontainer, eq_comm]
  | some blobs => cases hblob : blobs.get? place.name <;> simp [perform, hcontainer, hblob, eq_comm]

/-- A put succeeds exactly if the account is available and the name is free. -/
lemma answer_put_eq_ok_iff {data : ByteArray} :
    (a.answer (.put place data)).1 = .ok () ↔ a.isUnavailable = false ∧ a.blob? place = none := by
  cases h : a.isUnavailable with
  | true => simp [answer_of_unavailable h]
  | false =>
    cases hblob : a.blob? place with
    | none => simp [answer_put_of_free h hblob]
    | some old => simp [answer_put_of_taken h hblob]

/-- A put that succeeds places its blob and leaves everything else as it was. -/
lemma containers_answer_put_of_ok {data : ByteArray}
    (hok : (a.answer (.put place data)).1 = .ok ()) :
    (a.answer (.put place data)).2.containers = (a.seed place data).containers := by
  obtain ⟨havailable, hfree⟩ := answer_put_eq_ok_iff.mp hok
  apply Keyed.ext_get?
  intro k
  rw [answer_put_of_free havailable hfree, get?_seed, get?_createContainer, get?_seed]
  split <;> rfl

/-- What is held after a blob was placed depends on what was held before only. -/
lemma containers_seed_congr {b : Account} (h : b.containers = a.containers) (place : Locator)
    (data : ByteArray) : (b.seed place data).containers = (a.seed place data).containers := by
  unfold seed
  rw [h]

/-- A call that is refused leaves all containers as they were; a put makes no container then, since
the blob that is in its way is in one. -/
lemma containers_answer_of_error {call : Call} {fault : Fault}
    (hrefused : (a.answer call).1 = .error fault) : (a.answer call).2.containers = a.containers := by
  cases h : a.isUnavailable with
  | true => exact containers_answer_of_unavailable h call
  | false =>
    cases call with
    | put place data =>
      cases hblob : a.blob? place with
      | none =>
        rw [answer_put_of_free h hblob] at hrefused
        cases hrefused
      | some old =>
        obtain ⟨blobs, hthere, -⟩ := Option.bind_eq_some_iff.mp hblob
        rw [answer_put_of_taken h hblob]
        simp [createContainer, Keyed.insertIfNew, Keyed.contains, hthere]
    | get place => exact containers_answer_of_reads (.inl ⟨place, rfl⟩)
    | deleteBlob place =>
      rw [answer_of_available h] at hrefused ⊢
      simp only [perform] at hrefused ⊢
      repeat' split
      all_goals simp_all
    | list container => exact containers_answer_of_reads (.inr ⟨container, rfl⟩)
    | deleteContainer container =>
      rw [answer_of_available h] at hrefused ⊢
      simp only [perform] at hrefused ⊢
      split <;> simp_all

end Account

end ClaimCheck.Store
