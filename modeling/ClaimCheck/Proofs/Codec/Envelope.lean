import Mathlib
import ClaimCheck.Codec.Codec
import ClaimCheck.Config.Document
import ClaimCheck.Config.Overrides
import ClaimCheck.Proofs.Json.Strings

/-!
# Envelopes and the places they name

The text of an envelope is read back as a claim check with the path that was written into it
(`ReceivedBody.ofText_envelope`), and a path is read back as the place it was written from when the
container has no slash (`Locator.ofPath_path`).  Every configuration that is accepted has such a
container (`Config.IsAccepted.offloadContainer`), and the names that are given to offloaded bodies
have no slash either, so the path of a fresh place is the path of no other place.
-/

namespace ClaimCheck

open Json Text

/-! ## Paths -/

namespace Locator

/-- The characters of a path. -/
lemma toList_path (l : Locator) :
    l.path.toList = l.container.toList ++ '/' :: l.name.toList := by
  unfold path
  rw [String.toList_append, String.toList_append, List.append_assoc]
  rfl

/-- A path whose container has no slash is cut behind it, and neither part may be empty. -/
lemma ofPath_path_of_notMem {l : Locator} (hslash : '/' ∉ l.container.toList) :
    ofPath l.path =
      if l.container = "" then .error (.emptyContainer l.path)
      else if l.name = "" then .error (.emptyName l.path)
      else .ok l := by
  unfold ofPath
  rw [toList_path, splitFirst?_append hslash]
  by_cases hcontainer : l.container = ""
  · rw [if_pos hcontainer, hcontainer]
    rfl
  rw [if_neg hcontainer]
  obtain ⟨c, cs, hcs⟩ : ∃ c cs, l.container.toList = c :: cs :=
    List.exists_cons_of_ne_nil fun h => hcontainer (String.toList_eq_nil_iff.mp h)
  by_cases hname : l.name = ""
  · rw [if_pos hname, hcs, hname]
    rfl
  obtain ⟨n, ns, hns⟩ : ∃ n ns, l.name.toList = n :: ns :=
    List.exists_cons_of_ne_nil fun h => hname (String.toList_eq_nil_iff.mp h)
  rw [if_neg hname, hcs, hns]
  change Except.ok (⟨String.ofList (c :: cs), String.ofList (n :: ns)⟩ : Locator) = .ok l
  rw [← hcs, ← hns, String.ofList_toList, String.ofList_toList]

/-- A path is read back as the place it was written from. -/
lemma ofPath_path {l : Locator} (hcontainer : l.container ≠ "") (hslash : '/' ∉ l.container.toList)
    (hname : l.name ≠ "") : ofPath l.path = .ok l := by
  rw [ofPath_path_of_notMem hslash, if_neg hcontainer, if_neg hname]

/-- A path with one slash only is the path of one place only. -/
lemma eq_of_path_eq {l other : Locator} (hcontainer : '/' ∉ l.container.toList)
    (hname : '/' ∉ l.name.toList) (hpath : other.path = l.path) : other = l := by
  have hchars : other.container.toList ++ '/' :: other.name.toList =
      l.container.toList ++ '/' :: l.name.toList := by
    rw [← toList_path, ← toList_path, hpath]
  have hother : '/' ∉ other.container.toList := by
    have hcount := congrArg (List.count '/') hchars
    simp only [List.count_append, List.count_cons_self, List.count_eq_zero.mpr hcontainer,
      List.count_eq_zero.mpr hname] at hcount
    exact List.count_eq_zero.mp (by omega)
  have hsplit : some (other.container.toList, other.name.toList) =
      some (l.container.toList, l.name.toList) := by
    rw [← splitFirst?_append hother, ← splitFirst?_append hcontainer, hchars]
  simp only [Option.some.injEq, Prod.mk.injEq, String.toList_inj] at hsplit
  exact Locator.ext hsplit.1 hsplit.2

end Locator

/-! ## Names of offloaded bodies -/

/-- A hexadecimal digit is no slash. -/
lemma hexDigit_ne_slash {n : Nat} (h : n < 16) : hexDigit n ≠ '/' := by
  have hall : ∀ n < 16, hexDigit n ≠ '/' := by decide
  exact hall n h

/-- Written digits have no slash among them. -/
lemma slash_notMem_fixedHex (width n : Nat) : '/' ∉ fixedHex hexDigit width n := by
  induction width generalizing n with
  | zero => exact List.not_mem_nil
  | succ width ih =>
    rw [fixedHex, List.mem_append, List.mem_singleton, not_or]
    exact ⟨ih _, (hexDigit_ne_slash (Nat.mod_lt n (by decide))).symm⟩

/-- An identifier is written without a slash. -/
lemma Uuid.slash_notMem_toChars (id : Uuid) : '/' ∉ id.toChars := by
  have hvariant : '/' ≠ hexDigit (8 + id.field 60 % 4) := (hexDigit_ne_slash (by omega)).symm
  unfold toChars
  simp [slash_notMem_fixedHex, hvariant]

/-- The characters of the name of a fresh place. -/
lemma Codec.toList_freshPlace (container : String) (id : Uuid) :
    (freshPlace container id).name.toList = ("msg-".toList ++ id.toChars) ++ ".json".toList := by
  have htext : id.text.toList = id.toChars := String.toList_ofList
  unfold freshPlace
  rw [String.toList_append, String.toList_append, htext]

/-- The name of a fresh place has no slash. -/
lemma Codec.slash_notMem_freshPlace (container : String) (id : Uuid) :
    '/' ∉ (freshPlace container id).name.toList := by
  have hstart : '/' ∉ "msg-".toList := by decide
  have hend : '/' ∉ ".json".toList := by decide
  rw [toList_freshPlace, List.mem_append, List.mem_append, not_or, not_or]
  exact ⟨⟨hstart, id.slash_notMem_toChars⟩, hend⟩

/-- The name of a fresh place is not empty. -/
lemma Codec.name_freshPlace_ne (container : String) (id : Uuid) :
    (freshPlace container id).name ≠ "" := by
  have hend : ".json".toList ≠ [] := by decide
  intro h
  rw [← String.toList_eq_nil_iff, toList_freshPlace] at h
  exact hend (List.append_eq_nil_iff.mp h).2

/-! ## Accepted configurations -/

/-- A configuration that a document writes, or that overrides make of another. -/
def Config.IsAccepted (c : Config) : Prop :=
  (∃ text, Config.ofDocument text = .ok c) ∨
    ∃ (base : Config) (environment : List (String × String)),
      base.withOverrides environment = .ok c

/-- A configuration that passed the check has a container that paths can name. -/
lemma Config.offloadContainer_of_checked {base c : Config} (h : base.checked = .ok c) :
    c.offloadContainer ≠ "" ∧ '/' ∉ c.offloadContainer.toList := by
  unfold Config.checked Config.validated at h
  split at h
  · cases h
  split at h
  · cases h
  split at h
  · cases h
  · next hempty hslash _ =>
    cases h
    exact ⟨hempty, hslash⟩

/-- An accepted configuration has a container that paths can name. -/
lemma Config.IsAccepted.offloadContainer {c : Config} (h : c.IsAccepted) :
    c.offloadContainer ≠ "" ∧ '/' ∉ c.offloadContainer.toList := by
  rcases h with ⟨text, h⟩ | ⟨base, environment, h⟩
  · unfold Config.ofDocument at h
    split at h
    · cases h
    · exact Config.offloadContainer_of_checked h
  · unfold Config.withOverrides at h
    cases hoverride : environment.foldlM Config.applyOverride base with
    | error fault =>
      rw [hoverride] at h
      cases h
    | ok replaced =>
      rw [hoverride] at h
      exact Config.offloadContainer_of_checked h

/-! ## Envelopes -/

/-- The text of an envelope is a claim check with the path of its place. -/
lemma ReceivedBody.ofText_envelope (place : Locator) :
    ReceivedBody.ofText (EncodedBody.claimCheck place).text = .ok (.claimCheck place.path) := by
  unfold ReceivedBody.ofText EncodedBody.text EncodedBody.envelope
  rw [Value.parse_compact_member]
  rfl

end ClaimCheck
