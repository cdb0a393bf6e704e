import Mathlib
import ClaimCheck.Deletion.Target
import ClaimCheck.Proofs.Web.Address
import ClaimCheck.Proofs.Web.Segments

/-!
# Every blob has an address

An endpoint whose account and suffix are made of lower-case letters, digits and dots gives a plain host,
from which both are read back (`Target.splitHost_host`).  The written segments behind it are resolved
and decoded, so the address names what the texts of the segments lead to (`Target.parse_address`).

A container and the pieces of a blob's name that are written with percent signs lead to themselves
unless one of them is dots, and so every other container and blob has an address
(`Target.addressed_by_url`).
-/

namespace ClaimCheck

open Text Web Web.Address

/-! ## Endpoints -/

namespace Endpoint

/-- An account of lower-case letters and digits, and a suffix of labels of lower-case letters. -/
structure IsRegular (e : Endpoint) : Prop where
  account_ne : e.account ≠ ""
  account_chars : ∀ c ∈ e.account.toList, (c.isLower || c.isDigit) = true
  suffix_labels : ∀ label ∈ pieces '.' e.suffix.toList, label ≠ [] ∧ ∀ c ∈ label, c.isLower = true

instance (e : Endpoint) : Decidable e.IsRegular :=
  decidable_of_iff
    (e.account ≠ "" ∧ (e.account.toList.all fun c => c.isLower || c.isDigit) = true ∧
      ∀ label ∈ pieces '.' e.suffix.toList, label ≠ [] ∧ label.all Char.isLower = true)
    ⟨fun ⟨hne, haccount, hsuffix⟩ => ⟨hne, List.all_eq_true.mp haccount, fun label hlabel =>
        ⟨(hsuffix label hlabel).1, List.all_eq_true.mp (hsuffix label hlabel).2⟩⟩,
      fun he => ⟨he.account_ne, List.all_eq_true.mpr he.account_chars, fun label hlabel =>
        ⟨(he.suffix_labels label hlabel).1, List.all_eq_true.mpr (he.suffix_labels label hlabel).2⟩⟩⟩

/-- The host of an endpoint. -/
def host (e : Endpoint) : List Char := e.account.toList ++ marker.toList ++ e.suffix.toList

variable {e : Endpoint}

/-- The address of an endpoint is a scheme and the host. -/
lemma toList_url (e : Endpoint) : e.url.toList = "https://".toList ++ e.host := by
  unfold url host
  rw [String.toList_append, String.toList_append, String.toList_append, List.append_assoc,
    List.append_assoc, List.append_assoc]

/-- The characters of a regular host are plain. -/
lemma IsRegular.isHostChar (he : e.IsRegular) : ∀ c ∈ e.host, isHostChar c = true := by
  have hmarker : (marker.toList.all Web.isHostChar) = true := by decide
  intro c hc
  unfold host at hc
  rw [List.mem_append, List.mem_append] at hc
  rcases hc with (hc | hc) | hc
  · rw [Web.isHostChar, he.account_chars c hc, Bool.true_or]
  · exact List.all_eq_true.mp hmarker c hc
  · rw [← join_pieces '.' e.suffix.toList] at hc
    rcases mem_join hc with rfl | ⟨label, hlabel, hmem⟩
    · rfl
    · rw [Web.isHostChar, (he.suffix_labels label hlabel).2 c hmem, Bool.true_or, Bool.true_or]

/-- The account of a regular endpoint has no dot. -/
lemma IsRegular.dot_notMem (he : e.IsRegular) : '.' ∉ e.account.toList :=
  notMem_of_holds he.account_chars (by decide)

/-- The labels of a regular host: the account, the marker and those of the suffix. -/
lemma IsRegular.pieces_host (he : e.IsRegular) :
    pieces '.' e.host = e.account.toList :: "blob".toList :: pieces '.' e.suffix.toList := by
  have hhost : e.host = e.account.toList ++ '.' :: ("blob".toList ++ '.' :: e.suffix.toList) := by
    unfold host
    rw [List.append_assoc]
    rfl
  rw [hhost, pieces_append he.dot_notMem, pieces_append (by decide)]

/-- The host of a regular endpoint is plain: its last label is one of the suffix. -/
lemma IsRegular.isPlainHost (he : e.IsRegular) : IsPlainHost e.host := by
  have hlast : (pieces '.' e.suffix.toList).getLast (pieces_ne_nil _ _) ∈
      pieces '.' e.suffix.toList := List.getLast_mem _
  refine ⟨he.isHostChar, _, ?_, he.suffix_labels _ hlast⟩
  rw [he.pieces_host, List.getLast?_cons_of_ne_nil (List.cons_ne_nil _ _),
    List.getLast?_cons_of_ne_nil (pieces_ne_nil _ _), List.getLast?_eq_some_getLast]

/-- The suffix of a regular endpoint is not empty. -/
lemma IsRegular.suffix_ne (he : e.IsRegular) : e.suffix.toList ≠ [] := by
  intro hempty
  have hlabels := he.suffix_labels
  rw [hempty] at hlabels
  exact (hlabels [] List.mem_cons_self).1 rfl

end Endpoint

/-! ## Segments -/

/-- A character that never has to be written with percent signs may stand in a segment. -/
lemma Web.Address.isSegmentChar_of_isUnreserved {c : Char} (h : isUnreserved c = true) :
    isSegmentChar c = true := by
  have hseen : isTrimmed c = false := by
    rw [isTrimmed, decide_eq_false_iff_not]
    rw [isUnreserved, Bool.or_eq_true, Bool.or_eq_true, Bool.or_eq_true, Bool.or_eq_true,
      isAlphanum_iff_toNat] at h
    rcases h with (((h | h) | h) | h) | h
    · omega
    all_goals
      rw [beq_iff_eq.mp h]
      decide
  have hplain : ['/', '\\', '?', '#'].contains c = false := by
    rw [List.contains_eq_mem, decide_eq_false_iff_not]
    intro hmem
    have hreserved : (['/', '\\', '?', '#'].all fun mark => !isUnreserved mark) = true := by decide
    have hnot := List.all_eq_true.mp hreserved c hmem
    rw [h] at hnot
    cases hnot
  rw [isSegmentChar, hseen, hplain]
  rfl

/-- Segments behind slashes, written with percent signs. -/
def writtenPath (digit : Nat → Char) (keep : Char → Bool) (segments : List (List Char)) : String :=
  String.ofList (segments.flatMap fun segment => '/' :: percentEncode digit keep segment)

/-- The segments of a blob's address: its container and the pieces of its name. -/
def blobSegments (container name : String) : List (List Char) :=
  container.toList :: pieces '/' name.toList

/-- A blob's address has segments. -/
lemma blobSegments_ne_nil {container name : String} : blobSegments container name ≠ [] :=
  List.cons_ne_nil _ _

/-- The address of what segments name under an endpoint. -/
def Endpoint.address (e : Endpoint) (digit : Nat → Char) (keep : Char → Bool)
    (segments : List (List Char)) : String :=
  e.url ++ writtenPath digit keep segments

variable {e : Endpoint} {digit : Nat → Char} {keep : Char → Bool} {segments : List (List Char)}

/-- A slash behind an address writes an empty segment. -/
lemma Endpoint.address_append_slash :
    e.address digit keep segments ++ "/" = e.address digit keep (segments ++ [[]]) := by
  have hpath : writtenPath digit keep (segments ++ [[]]) = writtenPath digit keep segments ++ "/" := by
    unfold writtenPath
    rw [List.flatMap_append, String.ofList_append]
    rfl
  rw [Endpoint.address, Endpoint.address, hpath, String.append_assoc]

namespace Target

/-- An address names what is read of it. -/
lemma ofUrl_eq_ok_iff {url : String} {t : Target} : ofUrl url = .ok t ↔ parse url = .ok t := by
  unfold ofUrl
  cases parse url with
  | error reason => exact iff_of_false (fun h => by cases h) (fun h => by cases h)
  | ok target => exact ⟨fun h => congrArg _ (Except.ok.inj h), fun h => congrArg _ (Except.ok.inj h)⟩

/-- The account and the suffix are read back from the host. -/
lemma splitHost_host (he : e.IsRegular) :
    splitHost (.domain (String.ofList e.host)) = .ok (e.account, e.suffix) := by
  have haccount : e.account.toList ≠ [] := fun h => he.account_ne (String.toList_eq_nil_iff.mp h)
  have hsplit : splitAt? Endpoint.marker.toList (String.ofList e.host).toList =
      some (e.account.toList, e.suffix.toList) := by
    rw [String.toList_ofList]
    exact splitAt?_append he.dot_notMem e.suffix.toList
  unfold splitHost
  dsimp only
  rw [hsplit]
  split
  · next heq => cases heq
  · next heq => exact absurd (Prod.mk.inj (Option.some_inj.mp heq)).1 haccount
  · next heq => exact absurd (Prod.mk.inj (Option.some_inj.mp heq)).2 he.suffix_ne
  · next heq =>
    cases heq
    rw [String.ofList_toList, String.ofList_toList]

/-- The container and the blob that segments name. -/
def named (segments : List (List Char)) : Except Reason (String × Option String) :=
  if (segments.headD []).isEmpty then .error .emptyContainer
  else .ok (String.ofList (segments.headD []),
    if (join '/' segments.tail).isEmpty then none else some (String.ofList (join '/' segments.tail)))

/-- A written segment is decoded. -/
lemma decodeSegment_percentEncode (hdigit : WritesHex digit) (hkeep : keep '%' = false)
    (segment : List Char) : decodeSegment (percentEncode digit keep segment) = .ok segment := by
  unfold decodeSegment
  rw [percentDecode?_percentEncode hdigit hkeep]

/-- Written segments are decoded. -/
lemma mapM_decodeSegment (hdigit : WritesHex digit) (hkeep : keep '%' = false)
    (segments : List (List Char)) :
    (segments.map (percentEncode digit keep)).mapM decodeSegment = .ok segments := by
  induction segments with
  | nil => rfl
  | cons segment rest ih =>
    rw [List.map_cons, List.mapM_cons, decodeSegment_percentEncode hdigit hkeep, ih]
    rfl

/-- Written segments name what their texts name. -/
lemma splitPath_percentEncode (hdigit : WritesHex digit) (hkeep : keep '%' = false)
    (segments : List (List Char)) :
    splitPath (segments.map (percentEncode digit keep)) = named segments := by
  have hhead : (segments.map (percentEncode digit keep)).headD [] =
      percentEncode digit keep (segments.headD []) := by
    cases segments with
    | nil => rfl
    | cons segment rest => rfl
  unfold splitPath named
  rw [hhead, decodeSegment_percentEncode hdigit hkeep, ← List.map_drop,
    mapM_decodeSegment hdigit hkeep, List.drop_one]
  generalize segments.headD [] = container
  cases container with
  | nil => rfl
  | cons c container => rfl

/-- An address names what its segments lead to. -/
lemma parse_address (he : e.IsRegular) (hdigit : WritesHex digit) (hkeep : KeepsUnreserved keep)
    (hsegments : segments ≠ []) :
    parse (e.address digit keep segments) =
      (named (destination [] segments).reverse).map fun found =>
        ⟨e.account, e.suffix, found.1, found.2⟩ := by
  have hwritten : segments.map (percentEncode digit keep) ≠ [] := by
    rw [Ne, List.map_eq_nil_iff]
    exact hsegments
  have hchars : ∀ written ∈ segments.map (percentEncode digit keep), ∀ c ∈ written,
      isSegmentChar c = true := by
    intro written hwritten c hc
    obtain ⟨segment, -, rfl⟩ := List.mem_map.mp hwritten
    rcases isUnreserved_of_mem_percentEncode hdigit hkeep hc with hchar | rfl
    · exact isSegmentChar_of_isUnreserved hchar
    · rfl
  have htext : (e.address digit keep segments).toList =
      "https://".toList ++ (e.host ++ '/' :: join '/' (segments.map (percentEncode digit keep))) := by
    have hpath : (writtenPath digit keep segments).toList =
        segments.flatMap fun segment => '/' :: percentEncode digit keep segment :=
      String.toList_ofList
    rw [Endpoint.address, String.toList_append, Endpoint.toList_url, hpath, cons_join hwritten,
      List.flatMap_map, List.append_assoc]
  have hread := parse_of_https he.isPlainHost hwritten hchars htext
  have hresolved := resolveFrom_percentEncode hdigit hkeep [] segments
  rw [List.map_nil] at hresolved
  unfold parse
  rw [hread, hresolved]
  dsimp only
  unfold ofAddress
  change (splitHost (.domain (String.ofList e.host)) >>= _) = _
  rw [splitHost_host he]
  change (splitPath _ >>= _) = _
  rw [splitPath_percentEncode hdigit hkeep.percent]
  rfl

/-- Segments without dots in the place of one are named by their address. -/
lemma ofUrl_address_of_noDots (he : e.IsRegular) (hdigit : WritesHex digit)
    (hkeep : KeepsUnreserved keep) (hsegments : segments ≠ [])
    (hdots : ∀ segment ∈ segments, isDots segment = false) {container : String}
    {blob : Option String} (hnamed : named segments = .ok (container, blob)) :
    ofUrl (e.address digit keep segments) = .ok ⟨e.account, e.suffix, container, blob⟩ := by
  have hdestination : (destination [] segments).reverse = segments := by
    rw [destination_of_noDots hdots, List.append_nil, List.reverse_reverse]
  rw [ofUrl_eq_ok_iff, parse_address he hdigit hkeep hsegments, hdestination, hnamed]
  rfl

/-- A container alone is named without a blob. -/
lemma named_singleton {container : String} (hcontainer : container ≠ "") :
    named [container.toList] = .ok (container, none) := by
  have hne : container.toList.isEmpty = false :=
    List.isEmpty_eq_false_iff.mpr fun h => hcontainer (String.toList_eq_nil_iff.mp h)
  unfold named
  rw [List.headD_cons, hne, if_neg Bool.false_ne_true, String.ofList_toList]
  rfl

/-- A container and the pieces of a blob's name name both, unless the name is empty. -/
lemma named_blobSegments {container : String} (hcontainer : container ≠ "") (name : String) :
    named (blobSegments container name) =
      .ok (container, if name = "" then none else some name) := by
  have hne : container.toList.isEmpty = false :=
    List.isEmpty_eq_false_iff.mpr fun h => hcontainer (String.toList_eq_nil_iff.mp h)
  unfold named blobSegments
  rw [List.headD_cons, hne, if_neg Bool.false_ne_true, List.tail_cons, join_pieces,
    String.ofList_toList, String.ofList_toList]
  exact congrArg _ (congrArg _ (if_congr
    (List.isEmpty_iff.trans String.toList_eq_nil_iff) rfl rfl))

/-- Every blob has an address: the container and the pieces of the name, with percent signs for
everything but letters and digits, are read back as they are.  Without the name, and with or without
a slash at the end, the address names the container. -/
theorem addressed_by_url {e : Endpoint} (he : e.IsRegular) {digit : Nat → Char}
    (hdigit : WritesHex digit) {container : String}
    (hcontainer : container ≠ "" ∧ container ≠ "." ∧ container ≠ "..") :
    (∀ name : String, name ≠ "" →
        (∀ piece ∈ pieces '/' name.toList, piece ≠ ['.'] ∧ piece ≠ ['.', '.']) →
        ofUrl (e.address digit Char.isAlphanum (blobSegments container name)) =
          .ok ⟨e.account, e.suffix, container, some name⟩) ∧
      ofUrl (e.address digit Char.isAlphanum [container.toList]) =
        .ok ⟨e.account, e.suffix, container, none⟩ ∧
      ofUrl (e.address digit Char.isAlphanum [container.toList] ++ "/") =
        .ok ⟨e.account, e.suffix, container, none⟩ ∧
      ∀ blob, endpoint ⟨e.account, e.suffix, container, blob⟩ = e := by
  obtain ⟨hne, hone, htwo⟩ := hcontainer
  have hkeep : KeepsUnreserved Char.isAlphanum := by
    intro c hc
    rw [isUnreserved, hc]
    rfl
  have hdots : isDots container.toList = false := by
    refine isDots_eq_false_iff.mpr ⟨fun h => hone ?_, fun h => htwo ?_⟩
    · exact String.toList_injective h
    · exact String.toList_injective h
  refine ⟨fun name hname hpieces => ?_, ?_, ?_, fun blob => rfl⟩
  · have hnamed := named_blobSegments hne name
    rw [if_neg hname] at hnamed
    refine ofUrl_address_of_noDots he hdigit hkeep blobSegments_ne_nil ?_ hnamed
    exact List.forall_mem_cons.mpr
      ⟨hdots, fun piece hpiece => isDots_eq_false_iff.mpr (hpieces piece hpiece)⟩
  · refine ofUrl_address_of_noDots he hdigit hkeep (List.cons_ne_nil _ _) ?_ (named_singleton hne)
    rw [List.forall_mem_singleton]
    exact hdots
  · -- the slash writes one more segment, as the empty name would
    have hsegments : [container.toList] ++ [[]] = blobSegments container "" := rfl
    rw [Endpoint.address_append_slash, hsegments]
    refine ofUrl_address_of_noDots he hdigit hkeep blobSegments_ne_nil ?_
      (named_blobSegments hne "")
    exact List.forall_mem_cons.mpr ⟨hdots, List.forall_mem_singleton.mpr rfl⟩

/-- A name that is full of what an address takes for something else. -/
def oddName : String := "/.blob.//%2e?#\\é/"

/-- A blob of such a name, in a container that has a slash and a percent sign, is read back. -/
theorem addressed_odd_name :
    (⟨"acct", "core.windows.net"⟩ : Endpoint).IsRegular ∧ oddName ≠ "" ∧
      (∀ piece ∈ pieces '/' oddName.toList, piece ≠ ['.'] ∧ piece ≠ ['.', '.']) ∧
      ofUrl "https://acct.blob.core.windows.net/%252e%2F//%2Eblob%2E//%252e%3F%23%5C%C3%A9/" =
        .ok ⟨"acct", "core.windows.net", "%2e/", some oddName⟩ := by
  have he : (⟨"acct", "core.windows.net"⟩ : Endpoint).IsRegular := by decide +kernel
  have hcontainer : "%2e/" ≠ "" ∧ "%2e/" ≠ "." ∧ "%2e/" ≠ ".." := by decide
  have hname : oddName ≠ "" := by decide
  have hpieces : ∀ piece ∈ pieces '/' oddName.toList, piece ≠ ['.'] ∧ piece ≠ ['.', '.'] := by
    decide
  have haddress : Endpoint.address ⟨"acct", "core.windows.net"⟩ upperHexDigit Char.isAlphanum
      (blobSegments "%2e/" oddName) =
        "https://acct.blob.core.windows.net/%252e%2F//%2Eblob%2E//%252e%3F%23%5C%C3%A9/" := by
    decide +kernel
  refine ⟨he, hname, hpieces, ?_⟩
  rw [← haddress]
  exact (addressed_by_url he writesHex_upperHexDigit hcontainer).1 oddName hname hpieces

end Target

end ClaimCheck
