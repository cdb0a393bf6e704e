import Mathlib
import ClaimCheck.Proofs.Deletion.Addressed
import ClaimCheck.Proofs.Deletion.Program

/-!
# Names that lead to a container

The path of an address is resolved before the container and the blob are cut out of it.  A piece of a
blob's name that is one dot or two is followed like any other of the path, and so a name may lead back
to the container, or to another one (`LeadsToContainer`): then the address names this container as
a whole, and all that it holds is deleted (`Target.widened_iff`).

A name that does not lead to a container is never taken for one: either the address is refused, or
one blob is deleted.  This holds of every name none of whose pieces is dots
(`not_leadsToContainer_of_noDots`).
-/

namespace ClaimCheck

open Text Web Web.Address

variable {e : Endpoint} {digit : Nat → Char} {keep : Char → Bool} {container name place : String}
  {segments : List (List Char)}

/-! ## Paths of a container -/

/-- Pieces that are joined to nothing are none, or one that is empty. -/
lemma Text.join_eq_nil_iff {separator : Char} {parts : List (List Char)} :
    join separator parts = [] ↔ parts = [] ∨ parts = [[]] := by
  cases parts with
  | nil => simp [join]
  | cons first rest =>
    cases rest with
    | nil => simp [join]
    | cons next more => simp [join]

/-- Segments lead to a place alone, or with an empty segment behind it. -/
def LeadsToContainer (segments : List (List Char)) (place : String) : Prop :=
  place ≠ "" ∧ (destination [] segments = [place.toList] ∨
    destination [] segments = [[], place.toList])

/-- A name without dots in the place of a piece leads to no container. -/
lemma not_leadsToContainer_of_noDots (hcontainer : isDots container.toList = false)
    (hname : name ≠ "") (hpieces : ∀ piece ∈ pieces '/' name.toList, isDots piece = false) :
    ¬ LeadsToContainer (blobSegments container name) place := by
  rintro ⟨-, hplace⟩
  rw [blobSegments, destination_of_noDots (List.forall_mem_cons.mpr ⟨hcontainer, hpieces⟩),
    List.append_nil, List.reverse_eq_iff, List.reverse_eq_iff] at hplace
  -- the path is as long as it was written, and an empty segment is the empty name
  rcases hplace with hone | htwo
  · exact pieces_ne_nil _ _ (List.cons.inj hone).2
  · have hempty : pieces '/' name.toList = [[]] := (List.cons.inj htwo).2
    have hjoined := join_pieces '/' name.toList
    rw [hempty] at hjoined
    exact hname (String.toList_eq_nil_iff.mp hjoined.symm)

namespace Target

/-- Segments name a container as a whole if they are one segment, and perhaps an empty one. -/
lemma named_eq_container_iff : named segments = .ok (place, none) ↔
    place ≠ "" ∧ (segments = [place.toList] ∨ segments = [place.toList, []]) := by
  cases segments with
  | nil =>
    refine iff_of_false (fun h => ?_) fun h => ?_
    · cases h
    · rcases h.2 with h | h
      · cases h
      · cases h
  | cons first rest =>
    have hfirst : first.isEmpty = true ↔ String.ofList first = "" := by
      rw [List.isEmpty_iff, ← String.toList_eq_nil_iff, String.toList_ofList]
    have hshape : (first :: rest = [place.toList] ∨ first :: rest = [place.toList, []]) ↔
        String.ofList first = place ∧ join '/' rest = [] := by
      rw [join_eq_nil_iff, List.cons.injEq, List.cons.injEq, ← and_or_left]
      refine and_congr_left fun _ => ⟨fun h => ?_, fun h => ?_⟩
      · rw [h, String.ofList_toList]
      · rw [← h, String.toList_ofList]
    rw [hshape]
    unfold named
    rw [List.headD_cons, List.tail_cons]
    by_cases hempty : first.isEmpty = true
    · rw [if_pos hempty]
      refine iff_of_false (fun h => by cases h) ?_
      rintro ⟨hplace, heq, -⟩
      exact hplace (heq ▸ hfirst.mp hempty)
    · rw [if_neg hempty, Except.ok.injEq, Prod.mk.injEq]
      have hblob : (if (join '/' rest).isEmpty then none else some (String.ofList (join '/' rest))) =
          none ↔ join '/' rest = [] := by
        split
        · next h => exact iff_of_true rfl (List.isEmpty_iff.mp h)
        · next h => exact iff_of_false (fun h' => by cases h') fun h' => h (List.isEmpty_iff.mpr h')
      rw [hblob]
      refine ⟨fun h => ⟨?_, h⟩, And.right⟩
      rw [← h.1]
      exact fun h => hempty (hfirst.mpr h)

/-- What an address names is a container as a whole exactly if its segments lead to one. -/
lemma ofUrl_address_eq_container_iff (he : e.IsRegular) (hdigit : WritesHex digit)
    (hkeep : KeepsUnreserved keep) (hsegments : segments ≠ []) {t : Target} :
    (ofUrl (e.address digit keep segments) = .ok t ∧ t.blob = none) ↔
      ∃ place, LeadsToContainer segments place ∧ t = ⟨e.account, e.suffix, place, none⟩ := by
  have hplace : ∀ place, named (destination [] segments).reverse = .ok (place, none) ↔
      LeadsToContainer segments place := by
    intro place
    rw [named_eq_container_iff, List.reverse_eq_iff, List.reverse_eq_iff]
    rfl
  simp only [← hplace]
  rw [ofUrl_eq_ok_iff, parse_address he hdigit hkeep hsegments]
  generalize named (destination [] segments).reverse = outcome
  cases outcome with
  | error reason =>
    refine iff_of_false (fun h => by cases h.1) ?_
    rintro ⟨place, h, -⟩
    cases h
  | ok found =>
    obtain ⟨place, blob⟩ := found
    constructor
    · rintro ⟨h, hblob⟩
      cases h
      cases hblob
      exact ⟨place, rfl, rfl⟩
    · rintro ⟨place', h, rfl⟩
      cases h
      exact ⟨rfl, rfl⟩

end Target

/-! ## Addresses of names -/

/-- The address of a blob, its container written as it is and its name with percent signs for
everything but unreserved characters. -/
def Endpoint.blobUrl (e : Endpoint) (digit : Nat → Char) (container name : String) : String :=
  e.url ++ "/" ++ container ++ writtenPath digit isUnreserved (pieces '/' name.toList)

/-- Whether a character may stand in the name of a container. -/
def isContainerChar (c : Char) : Bool := c.isLower || c.isDigit || c == '-'

/-- Nothing in the name of a container has to be written with a percent sign. -/
lemma isUnreserved_of_isContainerChar {c : Char} (h : isContainerChar c = true) :
    isUnreserved c = true := by
  rw [isContainerChar, Bool.or_eq_true, Bool.or_eq_true] at h
  rw [isUnreserved, Char.isAlphanum, Char.isAlpha]
  rcases h with (h | h) | h
  · rw [h, Bool.or_true]
    rfl
  · rw [h, Bool.or_true]
    rfl
  · rw [h, Bool.or_true]
    rfl

/-- The name of a container is no dots. -/
lemma isDots_of_isContainerChar (hcontainer : ∀ c ∈ container.toList, isContainerChar c = true) :
    isDots container.toList = false := by
  have hdot : '.' ∉ container.toList := notMem_of_holds hcontainer (by decide)
  refine isDots_eq_false_iff.mpr ⟨fun h => hdot ?_, fun h => hdot ?_⟩
  · rw [h]
    exact List.mem_cons_self
  · rw [h]
    exact List.mem_cons_self

/-- The address of a blob is that of its container and the pieces of its name. -/
lemma Endpoint.blobUrl_eq (hcontainer : ∀ c ∈ container.toList, isContainerChar c = true) :
    e.blobUrl digit container name =
      e.address digit isUnreserved (blobSegments container name) := by
  have hkept : percentEncode digit isUnreserved container.toList = container.toList :=
    percentEncode_of_keep fun c hc => isUnreserved_of_isContainerChar (hcontainer c hc)
  have hpath : writtenPath digit isUnreserved (blobSegments container name) =
      "/" ++ container ++ writtenPath digit isUnreserved (pieces '/' name.toList) := by
    unfold writtenPath blobSegments
    rw [List.flatMap_cons, hkept, String.ofList_append]
    change String.ofList ("/".toList ++ container.toList) ++ _ = _
    rw [String.ofList_append, String.ofList_toList, String.ofList_toList]
  rw [blobUrl, address, hpath, String.append_assoc, String.append_assoc, String.append_assoc]

/-! ## Deletions by address -/

namespace Coordinator

variable {url : String}

/-- An address that names nothing asks for nothing. -/
lemma delete_of_fault (coordinator : Coordinator) {fault : Target.Fault}
    (hurl : Target.ofUrl url = .error fault) :
    coordinator.delete url = Attempt.ofOutcome .target (.error fault) := by
  unfold delete
  rw [hurl]
  rfl

/-- An address that names a blob asks for the deletion of this blob. -/
lemma delete_of_blob (coordinator : Coordinator) {t : Target} {blob : String}
    (hurl : Target.ofUrl url = .ok t) (hblob : t.blob = some blob) :
    coordinator.delete url =
      Attempt.wrapping .store
        (coordinator.access.within t.endpoint (deleteBlob ⟨t.container, blob⟩)) := by
  have htarget : deleteTarget t = deleteBlob ⟨t.container, blob⟩ := by
    funext session
    unfold deleteTarget
    rw [hblob]
  unfold delete
  rw [hurl, ← htarget]
  rfl

end Coordinator

namespace Target

/-- A blob's address is taken for that of a container exactly if the pieces of its name lead to one,
and then all that this container holds is to be deleted.  Otherwise the address is refused, or one blob
is deleted; so it is with every name none of whose pieces is dots. -/
theorem widened_iff {e : Endpoint} (he : e.IsRegular) {digit : Nat → Char}
    (hdigit : WritesHex digit) {container name : String}
    (hcontainer : container ≠ "" ∧ ∀ c ∈ container.toList, isContainerChar c = true)
    (hname : name ≠ "") :
    (∀ t, (ofUrl (e.blobUrl digit container name) = .ok t ∧ t.isContainer = true) ↔
        ∃ place, LeadsToContainer (blobSegments container name) place ∧
          t = ⟨e.account, e.suffix, place, none⟩) ∧
      ((∀ place, ¬ LeadsToContainer (blobSegments container name) place) →
        ∀ coordinator : Coordinator,
          (∃ fault, coordinator.delete (e.blobUrl digit container name) =
            Attempt.ofOutcome .target (.error fault)) ∨
          ∃ t blob, ofUrl (e.blobUrl digit container name) = .ok t ∧ t.blob = some blob ∧
            coordinator.delete (e.blobUrl digit container name) =
              Attempt.wrapping .store (coordinator.access.within t.endpoint
                (Coordinator.deleteBlob ⟨t.container, blob⟩))) ∧
      ((∀ piece ∈ pieces '/' name.toList, piece ≠ ['.'] ∧ piece ≠ ['.', '.']) →
        ∀ place, ¬ LeadsToContainer (blobSegments container name) place) := by
  have hiff : ∀ t, (ofUrl (e.blobUrl digit container name) = .ok t ∧ t.isContainer = true) ↔
      ∃ place, LeadsToContainer (blobSegments container name) place ∧
        t = ⟨e.account, e.suffix, place, none⟩ := by
    intro t
    rw [Endpoint.blobUrl_eq hcontainer.2, isContainer, Option.isNone_iff_eq_none,
      ofUrl_address_eq_container_iff he hdigit (fun c hc => hc) blobSegments_ne_nil]
  refine ⟨hiff, fun hnone coordinator => ?_, fun hpieces place => ?_⟩
  · cases hurl : ofUrl (e.blobUrl digit container name) with
    | error fault => exact .inl ⟨fault, coordinator.delete_of_fault hurl⟩
    | ok t =>
      cases hblob : t.blob with
      | none =>
        obtain ⟨place, hplace, -⟩ := (hiff t).mp ⟨hurl, Option.isNone_iff_eq_none.mpr hblob⟩
        exact absurd hplace (hnone place)
      | some blob => exact .inr ⟨t, blob, rfl, hblob, coordinator.delete_of_blob hurl hblob⟩
  · exact not_leadsToContainer_of_noDots (isDots_of_isContainerChar hcontainer.2) hname
      fun piece hpiece => isDots_eq_false_iff.mpr (hpieces piece hpiece)

/-- A name may lead to another container; one of three dots is a name like any other. -/
theorem widened_beside :
    (ofUrl "https://stairlock.blob.core.windows.net/c1/../c2" =
        .ok ⟨"stairlock", "core.windows.net", "c2", none⟩ ∧
      LeadsToContainer (blobSegments "c1" "../c2") "c2") ∧
      ∀ place, ¬ LeadsToContainer (blobSegments "c1" "...") place := by
  have he : (⟨"stairlock", "core.windows.net"⟩ : Endpoint).IsRegular := by decide +kernel
  have hcontainer : "c1" ≠ "" ∧ ∀ c ∈ "c1".toList, isContainerChar c = true :=
    ⟨by decide, List.all_eq_true.mp (by decide)⟩
  have hleads : LeadsToContainer (blobSegments "c1" "../c2") "c2" := ⟨by decide, .inl (by decide)⟩
  have hurl : Endpoint.blobUrl ⟨"stairlock", "core.windows.net"⟩ hexDigit "c1" "../c2" =
      "https://stairlock.blob.core.windows.net/c1/../c2" := by decide +kernel
  have hbeside := ((widened_iff he writesHex_hexDigit hcontainer (by decide)).1 _).mpr
    ⟨"c2", hleads, rfl⟩
  have hdots := (widened_iff he writesHex_hexDigit hcontainer (by decide : "..." ≠ "")).2.2
    (by decide)
  rw [hurl] at hbeside
  exact ⟨⟨hbeside.1, hleads⟩, hdots⟩

/-- A world in which a container holds two blobs. -/
def crowdedWorld : World :=
  World.repeating.setAccount "stairlock"
    ((Store.Account.seed {} ⟨"c1", "a"⟩ "one".toUTF8).seed ⟨"c1", "b"⟩ "two".toUTF8)

/-- The deletion of a blob of this container that has a dot for its name. -/
def dottedDeletion : Except LifecycleFault DeletionOutcome × World :=
  crowdedWorld.run
    (Coordinator.delete ⟨⟨.ambient⟩⟩ "https://stairlock.blob.core.windows.net/c1/.").run

/-- The container goes with all its blobs where a blob was named that it does not hold. -/
theorem dotted_name_widened :
    Endpoint.blobUrl ⟨"stairlock", "core.windows.net"⟩ hexDigit "c1" "." =
        "https://stairlock.blob.core.windows.net/c1/." ∧
      ofUrl "https://stairlock.blob.core.windows.net/c1/." =
        .ok ⟨"stairlock", "core.windows.net", "c1", none⟩ ∧
      (crowdedWorld.account "stairlock").blobNames "c1" = ["a", "b"] ∧
      dottedDeletion.1 = .ok (.container "c1") ∧
      (dottedDeletion.2.account "stairlock").hasContainer "c1" = false :=
  ⟨by decide +kernel, rfl, rfl, rfl, rfl⟩

end Target

end ClaimCheck
