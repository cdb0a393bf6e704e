import Mathlib
import ClaimCheck.Proofs.Web.Host

/-!
# Reading web addresses

An address of the web that is written with a plain host and path segments is read as that host and
those segments, resolved (`parse_of_https`).

An address of the web is read in the same way up to a question mark or a number sign, whatever follows,
provided that it does not end in a character that is trimmed (`parse_append_eq_web_iff`).
-/

namespace ClaimCheck.Web.Address

open Text

variable {mark c : Char} {cs host : List Char} {text : String}

/-! ## Surroundings -/

/-- Whether a character is dropped at the ends of an address. -/
def isTrimmed (c : Char) : Bool := c.toNat ≤ 0x20

/-- Nothing is dropped from a text in which every character is seen. -/
lemma cleaned_of_forall_not (h : ∀ c ∈ text.toList, isTrimmed c = false) :
    cleaned text = text.toList := by
  unfold cleaned
  change (trimBy isTrimmed text.toList).filter _ = _
  rw [trimBy_of_forall_not h, List.filter_eq_self]
  intro c hc
  have hseen := h c hc
  rw [decide_eq_true_eq]
  refine ⟨?_, ?_, ?_⟩
  · rintro rfl
    cases hseen
  · rintro rfl
    cases hseen
  · rintro rfl
    cases hseen

/-- A question mark or a number sign is not dropped. -/
lemma EndsPath.isTrimmed (hmark : EndsPath mark) : isTrimmed mark = false :=
  hmark.eq_of_both rfl rfl

/-- What stands before a question mark or a number sign is cleaned as it would be alone. -/
lemma cleaned_append (hmark : EndsPath mark)
    (hend : ∀ c, text.toList.getLast? = some c → isTrimmed c = false) (rest : String) :
    ∃ left, cleaned (text ++ String.singleton mark ++ rest) = cleaned text ++ mark :: left := by
  have hchars : (text ++ String.singleton mark ++ rest).toList =
      text.toList ++ mark :: rest.toList := by
    rw [String.toList_append, String.toList_append, String.toList_singleton, List.append_assoc,
      List.singleton_append]
  obtain ⟨left, htrim⟩ := trimBy_append hmark.isTrimmed hend rest.toList
  have hkept : (mark :: left).filter (fun c => c ≠ '\t' ∧ c ≠ '\n' ∧ c ≠ '\r') =
      mark :: left.filter fun c => c ≠ '\t' ∧ c ≠ '\n' ∧ c ≠ '\r' := by
    refine List.filter_cons_of_pos ?_
    cases hmark with
    | query => rfl
    | fragment => rfl
  refine ⟨left.filter fun c => c ≠ '\t' ∧ c ≠ '\n' ∧ c ≠ '\r', ?_⟩
  unfold cleaned
  rw [hchars]
  change (trimBy Address.isTrimmed _).filter _ = (trimBy Address.isTrimmed _).filter _ ++ _
  rw [htrim, List.filter_append, hkept]

/-! ## Schemes -/

/-- A scheme is what stands before the first colon, if it is well formed. -/
lemma splitScheme?_cons (first : Char) (cs : List Char) :
    splitScheme? (first :: cs) = (splitFirst? ':' (first :: cs)).bind fun (scheme, rest) =>
      if first.isAlpha ∧ scheme.all isSchemeChar then some (scheme.map Char.toLower, rest)
      else none := by
  unfold splitScheme?
  cases splitFirst? ':' (first :: cs) with
  | none => rfl
  | some parts => rfl

/-- A scheme is read in the same way up to a question mark or a number sign. -/
lemma splitScheme?_append (hmark : EndsPath mark) (cs rest : List Char) :
    splitScheme? (cs ++ mark :: rest) =
      (splitScheme? cs).map fun (scheme, after) => (scheme, after ++ mark :: rest) := by
  have hmarkChar : isSchemeChar mark = false ∧ mark.isAlpha = false ∧ ':' ≠ mark := by
    cases hmark with
    | query => decide
    | fragment => decide
  obtain ⟨hscheme, halpha, hcolon⟩ := hmarkChar
  cases cs with
  | nil =>
    rw [List.nil_append, splitScheme?_cons, halpha]
    cases splitFirst? ':' (mark :: rest) with
    | none => rfl
    | some parts => rfl
  | cons first cs =>
    rw [List.cons_append, splitScheme?_cons, splitScheme?_cons, ← List.cons_append]
    generalize first :: cs = front
    by_cases hmem : ':' ∈ front
    · -- the scheme ends before the mark
      obtain ⟨scheme, after, rfl, hnot⟩ := List.eq_append_cons_of_mem hmem
      rw [List.append_assoc, List.cons_append, splitFirst?_append hnot, splitFirst?_append hnot,
        Option.bind_some, Option.bind_some]
      dsimp only
      split
      · rfl
      · rfl
    · rw [splitFirst?_eq_none.mpr hmem]
      by_cases hbehind : ':' ∈ rest
      · -- what stands before the colon has the mark in it and is no scheme
        obtain ⟨before, after, rfl, hnot⟩ := List.eq_append_cons_of_mem hbehind
        have hnone : ':' ∉ front ++ mark :: before := by
          rw [List.mem_append, List.mem_cons, not_or, not_or]
          exact ⟨hmem, hcolon, hnot⟩
        have hall : (front ++ mark :: before).all isSchemeChar = false := by
          rw [List.all_append, List.all_cons, hscheme, Bool.false_and, Bool.and_false]
        rw [← List.cons_append, ← List.append_assoc, splitFirst?_append hnone, Option.bind_some]
        dsimp only
        rw [hall, if_neg fun h => Bool.false_ne_true h.2]
        rfl
      · have hnone : ':' ∉ front ++ mark :: rest := by
          rw [List.mem_append, List.mem_cons, not_or, not_or]
          exact ⟨hmem, hcolon, hbehind⟩
        rw [splitFirst?_eq_none.mpr hnone]
        rfl

/-- A scheme that is not of the web gives no address of the web. -/
lemma exists_other_of_ofScheme {scheme rest : List Char} (hkind : ∀ port, kindOf scheme ≠ .web port)
    {address : Address} (h : ofScheme scheme rest = .ok address) : ∃ name, address = .other name := by
  unfold ofScheme at h
  dsimp only at h
  cases hscheme : kindOf scheme with
  | web port => exact absurd hscheme (hkind port)
  | file =>
    rw [hscheme] at h
    dsimp only at h
    cases hcheck : checkFileHost rest with
    | error fault =>
      rw [hcheck] at h
      cases h
    | ok _ =>
      rw [hcheck] at h
      cases h
      exact ⟨_, rfl⟩
  | other =>
    rw [hscheme] at h
    dsimp only at h
    split at h
    · next rest =>
      cases hread : readAuthority .other rest with
      | error fault =>
        rw [hread] at h
        cases h
      | ok read =>
        rw [hread] at h
        cases h
        exact ⟨_, rfl⟩
    · cases h
      exact ⟨_, rfl⟩

/-! ## Queries and fragments -/

section Queries

variable {scheme : String} {address : Host} {port : Option Nat} {segments : List (List Char)}

/-- An address of the web has a scheme of the web. -/
lemma exists_port_of_ofScheme {name rest : List Char}
    (h : ofScheme name rest = .ok (.web scheme address port segments)) :
    ∃ standard, kindOf name = .web standard := by
  by_contra hnone
  obtain ⟨other, hother⟩ := exists_other_of_ofScheme (fun standard hkind => hnone ⟨standard, hkind⟩) h
  cases hother

/-- An address of the web is read in the same way whatever follows a question mark or a number
sign. -/
lemma parse_append_eq_web_iff (hmark : EndsPath mark)
    (hend : ∀ c, text.toList.getLast? = some c → isTrimmed c = false) (rest : String) :
    parse (text ++ String.singleton mark ++ rest) = .ok (.web scheme address port segments) ↔
      parse text = .ok (.web scheme address port segments) := by
  obtain ⟨left, hleft⟩ := cleaned_append hmark hend rest
  unfold parse
  rw [hleft, splitScheme?_append hmark]
  cases splitScheme? (cleaned text) with
  | none => exact Iff.rfl
  | some parts =>
    obtain ⟨name, after⟩ := parts
    dsimp only [Option.map_some]
    constructor
    · intro h
      obtain ⟨standard, hkind⟩ := exists_port_of_ofScheme h
      rwa [ofScheme_append hmark hkind] at h
    · intro h
      obtain ⟨standard, hkind⟩ := exists_port_of_ofScheme h
      rwa [ofScheme_append hmark hkind]

end Queries

/-! ## Plain addresses -/

/-- A character of a segment: it is seen and neither ends nor cuts a path. -/
def isSegmentChar (c : Char) : Bool := !isTrimmed c && !(['/', '\\', '?', '#'].contains c)

/-- A path of segments is cut into them. -/
lemma readSegments_join {segments : List (List Char)} (hsegments : segments ≠ [])
    (hchars : ∀ segment ∈ segments, ∀ c ∈ segment, isSegmentChar c = true) :
    readSegments ('/' :: join '/' segments) = resolveFrom [] segments := by
  have hpath : ∀ c ∈ join '/' segments, c = '/' ∨ isSegmentChar c = true := by
    intro c hc
    rcases mem_join hc with heq | ⟨segment, hsegment, hmem⟩
    · exact .inl heq
    · exact .inr (hchars segment hsegment c hmem)
  have hends : ∀ c ∈ '/' :: join '/' segments, decide (c ≠ '?' ∧ c ≠ '#') = true := by
    rw [List.forall_mem_cons]
    refine ⟨rfl, fun c hc => ?_⟩
    rcases hpath c hc with rfl | hsegment
    · rfl
    · exact decide_eq_true
        ⟨ne_of_holds hsegment (by decide), ne_of_holds hsegment (by decide)⟩
  have hcut : piecesBy isSlash (join '/' segments) = pieces '/' (join '/' segments) := by
    refine piecesBy_congr fun c hc => ?_
    rcases hpath c hc with rfl | hsegment
    · rfl
    · have hbackslash : c ≠ '\\' := ne_of_holds hsegment (by decide)
      rw [isSlash, beq_eq_false_iff_ne.mpr hbackslash, Bool.or_false]
  have hslash : isSlash '/' = true := rfl
  have htake : ('/' :: join '/' segments).takeWhile (fun c => c ≠ '?' ∧ c ≠ '#') =
      '/' :: join '/' segments := List.takeWhile_eq_self_iff.mpr hends
  unfold readSegments
  rw [htake]
  dsimp only
  rw [if_pos hslash, hcut, pieces_join hsegments fun segment hsegment =>
    notMem_of_holds (hchars segment hsegment) (by decide)]

/-- The scheme of an address that starts with it. -/
lemma splitScheme?_https (rest : List Char) :
    splitScheme? ("https://".toList ++ rest) = some ("https".toList, '/' :: '/' :: rest) := by
  have hcolon : ':' ∉ "https".toList := by decide
  have hwell : 'h'.isAlpha = true ∧ "https".toList.all isSchemeChar = true := by decide
  have hlowered : "https".toList.map Char.toLower = "https".toList := by decide
  change splitScheme? ('h' :: _) = _
  rw [splitScheme?_cons]
  change (splitFirst? ':' ("https".toList ++ ':' :: '/' :: '/' :: rest)).bind _ = _
  rw [splitFirst?_append hcolon, Option.bind_some]
  dsimp only
  rw [if_pos hwell, hlowered]

/-- Nothing is dropped from an address that is written with a plain host and segments. -/
lemma isTrimmed_of_mem_https (hhost : IsPlainHost host) {segments : List (List Char)}
    (hchars : ∀ segment ∈ segments, ∀ c ∈ segment, isSegmentChar c = true)
    (hc : c ∈ "https://".toList ++ (host ++ '/' :: join '/' segments)) : isTrimmed c = false := by
  have hscheme : ("https://".toList.all fun c => !isTrimmed c) = true := by decide
  rw [List.mem_append, List.mem_append, List.mem_cons] at hc
  rcases hc with hc | hc | rfl | hc
  · rw [← Bool.not_eq_true']
    exact List.all_eq_true.mp hscheme c hc
  · have hnat := isHostChar_iff_toNat.mp (hhost.chars c hc)
    rw [isTrimmed, decide_eq_false_iff_not]
    omega
  · rfl
  · rcases mem_join hc with rfl | ⟨segment, hsegment, hmem⟩
    · rfl
    · have hchar := hchars segment hsegment c hmem
      rw [isSegmentChar, Bool.and_eq_true, Bool.not_eq_true'] at hchar
      exact hchar.1

/-- An address that is written with a plain host and segments is read as them. -/
lemma parse_of_https (hhost : IsPlainHost host) {segments : List (List Char)}
    (hsegments : segments ≠ [])
    (hchars : ∀ segment ∈ segments, ∀ c ∈ segment, isSegmentChar c = true)
    (htext : text.toList = "https://".toList ++ (host ++ '/' :: join '/' segments)) :
    parse text = .ok (.web "https" (.domain (String.ofList host)) none (resolveFrom [] segments)) := by
  have hseen : ∀ c ∈ text.toList, isTrimmed c = false := by
    rw [htext]
    exact fun c hc => isTrimmed_of_mem_https hhost hchars hc
  have hkind : kindOf "https".toList = .web 443 := by decide
  unfold parse
  rw [cleaned_of_forall_not hseen, htext, splitScheme?_https]
  dsimp only
  unfold ofScheme
  dsimp only
  rw [hkind, dropWhile_isSlash_of_isPlainHost hhost]
  dsimp only
  rw [readAuthority_of_isPlainHost hhost]
  change Except.ok (web _ _ none (readSegments ('/' :: join '/' segments))) = _
  rw [readSegments_join hsegments hchars]
  rfl

end ClaimCheck.Web.Address
