import Mathlib
import ClaimCheck.Proofs.Codec.Envelope

/-!
# Paths of places

A path with a slash is the path of one place whose container has none (`Locator.exists_path_of_mem`),
and it is read back as this place unless one of its two parts is empty.  So a path is read as a place
exactly if it is the path of it and the place is not one of those that paths cannot tell
(`Locator.ofPath_eq_ok_iff`), and for every path that is refused the reason is the one that `Refused`
gives (`Locator.ofPath_eq_error_iff`).

Together with the text of an envelope, which carries the path of any place unharmed, this says what
becomes of a place that is put into an envelope and read out of it (`Locator.envelope_round_trip`).
-/

namespace ClaimCheck.Locator

open Text

variable {p : String} {l : Locator} {fault : Fault}

/-- Why a path is refused. -/
inductive Refused (p : String) : Fault → Prop where
  | missingSeparator (hslash : '/' ∉ p.toList) : Refused p (.missingSeparator p)
  | emptyContainer (hfirst : p.toList.head? = some '/') : Refused p (.emptyContainer p)
  | emptyName {container : String} (hcontainer : container ≠ "") (hslash : '/' ∉ container.toList)
      (hlast : p = container ++ "/") : Refused p (.emptyName p)

/-- A path without a slash is the path of no place. -/
lemma ofPath_of_notMem (hslash : '/' ∉ p.toList) : ofPath p = .error (.missingSeparator p) := by
  unfold ofPath
  rw [splitFirst?_eq_none.mpr hslash]

/-- A path with a slash is the path of a place whose container has none. -/
lemma exists_path_of_mem (hslash : '/' ∈ p.toList) :
    ∃ l : Locator, '/' ∉ l.container.toList ∧ l.path = p := by
  obtain ⟨container, name, hpath, hnot⟩ := List.eq_append_cons_of_mem hslash
  refine ⟨⟨String.ofList container, String.ofList name⟩, ?_, ?_⟩
  · rw [String.toList_ofList]
    exact hnot
  · rw [← String.toList_inj, toList_path, String.toList_ofList, String.toList_ofList, hpath]

/-- The path of a place without a container starts with a slash. -/
lemma head?_path_of_empty (h : l.container = "") : l.path.toList.head? = some '/' := by
  rw [toList_path, h]
  rfl

/-- A path that starts with a slash is the path of a place without a container. -/
lemma exists_empty_of_head? (h : p.toList.head? = some '/') :
    ∃ l : Locator, l.container = "" ∧ l.path = p := by
  obtain ⟨name, hname⟩ := List.head?_eq_some_iff.mp h
  refine ⟨⟨"", String.ofList name⟩, rfl, ?_⟩
  have hchars : (String.ofList name).toList = name := String.toList_ofList
  rw [← String.toList_inj, toList_path, hname, hchars]
  rfl

/-- The path of a place without a name ends in its slash. -/
lemma path_of_empty_name (h : l.name = "") : l.path = l.container ++ "/" := by
  rw [path, h, String.append_empty]

/-- A path is read as the place that it is the path of, if the container is not empty and has no
slash and the name is not empty. -/
lemma ofPath_eq_ok_iff : ofPath p = .ok l ↔
    l.path = p ∧ l.container ≠ "" ∧ '/' ∉ l.container.toList ∧ l.name ≠ "" := by
  constructor
  · intro h
    by_cases hslash : '/' ∈ p.toList
    · obtain ⟨place, hnot, rfl⟩ := exists_path_of_mem hslash
      rw [ofPath_path_of_notMem hnot] at h
      split at h
      · cases h
      split at h
      · cases h
      · next hcontainer hname =>
        cases h
        exact ⟨rfl, hcontainer, hnot, hname⟩
    · rw [ofPath_of_notMem hslash] at h
      cases h
  · rintro ⟨rfl, hcontainer, hslash, hname⟩
    exact ofPath_path hcontainer hslash hname

/-- A path is refused for a reason exactly if the reason is there. -/
lemma ofPath_eq_error_iff : ofPath p = .error fault ↔ Refused p fault := by
  constructor
  · intro h
    by_cases hslash : '/' ∈ p.toList
    · obtain ⟨place, hnot, rfl⟩ := exists_path_of_mem hslash
      rw [ofPath_path_of_notMem hnot] at h
      split at h
      · next hcontainer =>
        cases h
        exact .emptyContainer (head?_path_of_empty hcontainer)
      split at h
      · next hcontainer hname =>
        cases h
        exact .emptyName hcontainer hnot (path_of_empty_name hname)
      · cases h
    · rw [ofPath_of_notMem hslash] at h
      cases h
      exact .missingSeparator hslash
  · -- each reason is found again where the path is cut
    rintro (hslash | hfirst | @⟨container, hcontainer, hslash, hlast⟩)
    · exact ofPath_of_notMem hslash
    · obtain ⟨place, hempty, rfl⟩ := exists_empty_of_head? hfirst
      have hnot : '/' ∉ place.container.toList := by
        rw [hempty]
        exact List.not_mem_nil
      rw [ofPath_path_of_notMem hnot, if_pos hempty]
    · have hpath : (⟨container, ""⟩ : Locator).path = p := (path_of_empty_name rfl).trans hlast.symm
      rw [← hpath, ofPath_path_of_notMem hslash, if_neg hcontainer, if_pos rfl]

/-- What becomes of a place in an envelope: the text carries its path, and the path is read back as
the place exactly if the container is not empty and has no slash and the name is not empty.  Whatever
a path is read as has this path, and a path is refused exactly for the reasons that it gives. -/
theorem envelope_round_trip (l : Locator) (p : String) :
    ReceivedBody.ofText (EncodedBody.claimCheck l).text = .ok (.claimCheck l.path) ∧
      (ofPath l.path = .ok l ↔
        l.container ≠ "" ∧ '/' ∉ l.container.toList ∧ l.name ≠ "") ∧
      (∀ place, ofPath p = .ok place → place.path = p) ∧
      ∀ fault, ofPath p = .error fault ↔ Refused p fault := by
  refine ⟨ReceivedBody.ofText_envelope l, ?_, fun place h => (ofPath_eq_ok_iff.mp h).1,
    fun fault => ofPath_eq_error_iff⟩
  rw [ofPath_eq_ok_iff, and_iff_right rfl]

end ClaimCheck.Locator
