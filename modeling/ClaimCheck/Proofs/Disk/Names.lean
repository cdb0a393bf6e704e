import Mathlib
import ClaimCheck.Disk.Account
import ClaimCheck.Disk.Machine
import ClaimCheck.Proofs.Keyed
import ClaimCheck.Proofs.Text.Pieces

/-!
# Names on disk

The name of a blob is cut at its slashes, and each piece names one entry of a directory.  Nothing is
lost in this: from the names of the entries the name of the blob is read back
(`blobName_of_segments`), so two blobs never share a location.  None of the pieces leads anywhere but
to an entry (`Name.IsPlain`).

A listing is sorted after it was collected; since names come up once each, it is the list of names
that a collection keeps in order anyway (`mergeSort_eq_keys`).
-/

namespace ClaimCheck.Disk

open Text

/-! ## Names of entries -/

namespace Name

/-- A name is read as the text that spells it. -/
lemma decodeLossy_ofChars (cs : List Char) : Utf8.decodeLossy (ofChars cs) = String.ofList cs := by
  unfold ofChars Utf8.decodeLossy
  rw [Utf8.fromUTF8?_toUTF8]

/-- Different texts spell different names. -/
lemma ofChars_injective : Function.Injective ofChars := by
  intro cs cs' h
  have hread := congrArg Utf8.decodeLossy h
  rw [decodeLossy_ofChars, decodeLossy_ofChars] at hread
  exact String.ofList_injective hread

/-- The bytes of a text are the name that it spells. -/
lemma toUTF8_eq (text : String) : text.toUTF8 = ofChars text.toList := by
  unfold ofChars
  rw [String.ofList_toList]

/-- A name that leads to an entry. -/
def IsPlain (name : Name) : Prop := name ≠ self ∧ name ≠ parent

/-- A piece that is not special spells a name that leads to an entry. -/
lemma isPlain_ofChars {cs : List Char} (h : isSpecial cs = false) : IsPlain (ofChars cs) := by
  unfold isSpecial at h
  constructor
  · intro hname
    rw [ofChars_injective hname] at h
    exact absurd h (by decide)
  · intro hname
    rw [ofChars_injective hname] at h
    exact absurd h (by decide)

/-- A text that names an entry spells a name that leads to it. -/
lemma isPlain_toUTF8 {text : String} (h : isEntryName text = true) : IsPlain text.toUTF8 := by
  rw [toUTF8_eq]
  refine isPlain_ofChars ?_
  unfold isEntryName at h
  simp only [Bool.and_eq_true, Bool.not_eq_true'] at h
  exact h.1

end Name

/-- Different texts have different bytes. -/
lemma toUTF8_injective {text other : String} (h : text.toUTF8 = other.toUTF8) : text = other := by
  rw [Name.toUTF8_eq, Name.toUTF8_eq] at h
  exact String.toList_injective (Name.ofChars_injective h)

/-! ## Names of blobs -/

/-- The pieces of a blob's name. -/
def parts (name : String) : List (List Char) := pieces '/' name.toList

/-- A blob's name is accepted when none of its pieces is special, and leads through all of them. -/
lemma segments_eq_ok_iff {name : String} {names : Location} :
    Account.segments name = .ok names ↔
      (∀ part ∈ parts name, isSpecial part = false) ∧ (parts name).map Name.ofChars = names := by
  have hsegments : Account.segments name = if (parts name).any isSpecial then
    .error (.invalidName .blob name) else .ok ((parts name).map Name.ofChars) := rfl
  rw [hsegments]
  split
  · next hspecial =>
    obtain ⟨part, hpart, hs⟩ := List.any_eq_true.mp hspecial
    refine iff_of_false (fun h => by cases h) fun h => ?_
    rw [h.1 part hpart] at hs
    cases hs
  · next hplain =>
    rw [Except.ok.injEq, iff_and_self]
    intro _ part hpart
    by_contra hs
    exact hplain (List.any_eq_true.mpr ⟨part, hpart, by simpa using hs⟩)

variable {name other : String} {names others : Location}

/-- A blob is kept below its container, not at it. -/
lemma segments_ne_nil (h : Account.segments name = .ok names) : names ≠ [] := by
  obtain ⟨-, rfl⟩ := segments_eq_ok_iff.mp h
  exact fun hnil => pieces_ne_nil _ _ (List.map_eq_nil_iff.mp hnil)

/-- All names on the way to a blob lead to entries. -/
lemma isPlain_of_segments (h : Account.segments name = .ok names) {n : Name} (hn : n ∈ names) :
    n.IsPlain := by
  obtain ⟨hplain, rfl⟩ := segments_eq_ok_iff.mp h
  obtain ⟨part, hpart, rfl⟩ := List.mem_map.mp hn
  exact Name.isPlain_ofChars (hplain part hpart)

/-- The name of a blob is read back from the names that lead to it. -/
lemma blobName_of_segments (h : Account.segments name = .ok names) : blobName names = name := by
  obtain ⟨-, rfl⟩ := segments_eq_ok_iff.mp h
  have hread : ((parts name).map Name.ofChars).map (fun n => (Utf8.decodeLossy n).toList) =
      parts name := by
    rw [List.map_map]
    refine (List.map_congr_left fun part _ => ?_).trans (List.map_id _)
    dsimp only [Function.comp_apply]
    rw [Name.decodeLossy_ofChars, String.toList_ofList]
    rfl
  unfold blobName
  rw [hread, parts, join_pieces, String.ofList_toList]

/-- Different blobs are kept at different locations. -/
lemma eq_of_segments (h : Account.segments name = .ok names)
    (h' : Account.segments other = .ok names) : name = other := by
  rw [← blobName_of_segments h, ← blobName_of_segments h']

/-- The location above that of a blob has a name too. -/
lemma exists_segments_of_prefix (h : Account.segments name = .ok names) (hne : others ≠ [])
    (hfrom : others <+: names) : ∃ other, Account.segments other = .ok others := by
  obtain ⟨hplain, rfl⟩ := segments_eq_ok_iff.mp h
  obtain ⟨rest, hrest⟩ := hfrom
  obtain ⟨front, back, hparts, rfl, -⟩ := List.map_eq_append_iff.mp hrest.symm
  have hmem : ∀ part ∈ front, part ∈ parts name := fun part hpart => by
    rw [hparts]
    exact List.mem_append_left _ hpart
  have hjoin : parts (String.ofList (join '/' front)) = front := by
    unfold parts
    rw [String.toList_ofList]
    exact pieces_join (fun hnil => hne (by rw [hnil, List.map_nil]))
      fun part hpart => not_mem_of_mem_pieces (hmem part hpart)
  refine ⟨String.ofList (join '/' front), segments_eq_ok_iff.mpr ⟨fun part hpart => ?_, ?_⟩⟩
  · rw [hjoin] at hpart
    exact hplain part (hmem part hpart)
  · rw [hjoin]

/-- One name leads below the other: its pieces are those of the other one with some more. -/
def Overlaps (name other : String) : Prop :=
  parts name ≠ parts other ∧ (parts name <+: parts other ∨ parts other <+: parts name)

/-- A location below another is that of a name whose pieces go on from those of the other's. -/
lemma parts_prefix_of_segments (h : Account.segments name = .ok names)
    (h' : Account.segments other = .ok others) (hstart : names <+: others) :
    parts name <+: parts other := by
  obtain ⟨-, rfl⟩ := segments_eq_ok_iff.mp h
  obtain ⟨-, rfl⟩ := segments_eq_ok_iff.mp h'
  obtain ⟨rest, hrest⟩ := hstart
  obtain ⟨front, back, hparts, hfront, -⟩ := List.map_eq_append_iff.mp hrest.symm
  rw [List.map_injective_iff.mpr Name.ofChars_injective hfront] at hparts
  exact ⟨back, hparts.symm⟩

/-- Names overlap when one of their locations is strictly below the other. -/
lemma overlaps_of_segments (h : Account.segments name = .ok names)
    (h' : Account.segments other = .ok others) (hne : names ≠ others)
    (hstart : names <+: others ∨ others <+: names) : Overlaps name other := by
  refine ⟨fun hparts => hne ?_, ?_⟩
  · rw [← (segments_eq_ok_iff.mp h).2, ← (segments_eq_ok_iff.mp h').2, hparts]
  · exact hstart.imp (parts_prefix_of_segments h h') (parts_prefix_of_segments h' h)

/-! ## Listings -/

/-- Sorted names increase. -/
lemma pairwise_mergeSort_le (names : List String) : names.mergeSort.Pairwise (· ≤ ·) := by
  refine (List.pairwise_mergeSort (fun a b c hab hbc => ?_) (fun a b => ?_) names).imp
    of_decide_eq_true
  · rw [decide_eq_true_eq] at hab hbc ⊢
    exact String.le_trans hab hbc
  · rw [Bool.or_eq_true, decide_eq_true_eq, decide_eq_true_eq]
    exact String.le_total a b

/-- The order of names does not matter when they are sorted. -/
lemma mergeSort_eq_of_perm {names others : List String} (h : names.Perm others) :
    names.mergeSort = others.mergeSort :=
  ((List.mergeSort_perm names _).trans (h.trans (List.mergeSort_perm others _).symm)).eq_of_pairwise
    (fun _ _ _ _ => String.le_antisymm) (pairwise_mergeSort_le names) (pairwise_mergeSort_le others)

/-- Sorting the names under which something is kept, once each, gives them in the order in which
they are kept. -/
lemma mergeSort_eq_keys {α : Type} {c : Keyed α} {names : List String} (hnodup : names.Nodup)
    (hmem : ∀ name, name ∈ names ↔ name ∈ c.keys) : names.mergeSort = c.keys := by
  have hkeys : c.keys.Pairwise (· < ·) := c.keys_pairwise
  have hdistinct : c.keys.Nodup := hkeys.imp fun h => String.ne_of_lt h
  have hperm : names.mergeSort.Perm c.keys :=
    (List.mergeSort_perm names _).trans ((List.perm_ext_iff_of_nodup hnodup hdistinct).mpr hmem)
  have hordered : c.keys.Pairwise (· ≤ ·) := hkeys.imp fun h => le_of_lt h
  exact hperm.eq_of_pairwise (fun a b _ _ => String.le_antisymm) (pairwise_mergeSort_le names)
    hordered

end ClaimCheck.Disk
