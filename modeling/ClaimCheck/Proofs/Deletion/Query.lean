import Mathlib
import ClaimCheck.Proofs.Deletion.Addressed

/-!
# Queries and fragments of a target's address

A target is named by an address of the web, and such an address is read up to the first question mark
or number sign (`Web.Address.parse_append_eq_web_iff`).  So nothing that is written behind one, such as
a signature, decides what is named (`Target.query_unread`).
-/

namespace ClaimCheck

open Text Web Web.Address

namespace Target

variable {mark : Char} {url : String} {t : Target}

/-- A target is named by an address of the web. -/
lemma ofUrl_eq_ok_iff_exists_web : ofUrl url = .ok t ↔
    ∃ scheme host port segments, Address.parse url = .ok (.web scheme host port segments) ∧
      ofAddress (.web scheme host port segments) = .ok t := by
  rw [ofUrl_eq_ok_iff, parse]
  cases Address.parse url with
  | error fault =>
    refine iff_of_false (fun h => by cases h) ?_
    rintro ⟨scheme, host, port, segments, hparse, -⟩
    cases hparse
  | ok address =>
    cases address with
    | other name =>
      refine iff_of_false (fun h => by cases h) ?_
      rintro ⟨scheme, host, port, segments, hparse, -⟩
      cases hparse
    | web scheme host port segments =>
      constructor
      · intro h
        exact ⟨scheme, host, port, segments, rfl, h⟩
      · rintro ⟨scheme', host', port', segments', hparse, h⟩
        cases hparse
        exact h

/-- A target does not depend on what follows a question mark or a number sign. -/
lemma ofUrl_append_eq_ok_iff (hmark : EndsPath mark)
    (hend : ∀ c, url.toList.getLast? = some c → isTrimmed c = false) (rest : String) :
    ofUrl (url ++ String.singleton mark ++ rest) = .ok t ↔ ofUrl url = .ok t := by
  rw [ofUrl_eq_ok_iff_exists_web, ofUrl_eq_ok_iff_exists_web]
  simp only [parse_append_eq_web_iff hmark hend]

/-- Neither a query nor a fragment changes what an address names, or whether it names anything: an
address that does not end in a character that is trimmed names a target exactly if it names the same
one with any text behind a question mark or a number sign. -/
theorem query_unread {url : String}
    (hend : ∀ c, url.toList.getLast? = some c → 0x20 < c.toNat) (q : String) (t : Target) :
    (ofUrl (url ++ "?" ++ q) = .ok t ↔ ofUrl url = .ok t) ∧
      (ofUrl (url ++ "#" ++ q) = .ok t ↔ ofUrl url = .ok t) := by
  have hseen : ∀ c, url.toList.getLast? = some c → isTrimmed c = false := by
    intro c hc
    rw [isTrimmed, decide_eq_false_iff_not]
    exact Nat.not_le.mpr (hend c hc)
  exact ⟨ofUrl_append_eq_ok_iff .query hseen q, ofUrl_append_eq_ok_iff .fragment hseen q⟩

/-- An address with a user and a port. -/
def plainUrl : String := "https://user@acct.blob.core.windows.net:443/c/f.csv"

/-- A signature with the marks of an address in it names no other account and no other blob. -/
theorem signature_unread :
    (∀ c, plainUrl.toList.getLast? = some c → 0x20 < c.toNat) ∧
      ofUrl (plainUrl ++ "?" ++ "sv=2021&sig=a/b@x.blob.y:8443/%2e%2e#/d") =
        .ok ⟨"acct", "core.windows.net", "c", some "f.csv"⟩ ∧
      ofUrl (plainUrl ++ "#" ++ "/../?@x.blob.y/d") =
        .ok ⟨"acct", "core.windows.net", "c", some "f.csv"⟩ := by
  have hend : ∀ c, plainUrl.toList.getLast? = some c → 0x20 < c.toNat := by
    intro c hc
    cases hc
    decide
  have hurl : ofUrl plainUrl = .ok ⟨"acct", "core.windows.net", "c", some "f.csv"⟩ := by cbv
  exact ⟨hend, (query_unread hend _ _).1.mpr hurl, (query_unread hend _ _).2.mpr hurl⟩

end Target

end ClaimCheck
