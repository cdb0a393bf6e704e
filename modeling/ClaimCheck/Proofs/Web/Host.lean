import Mathlib
import ClaimCheck.Proofs.Text.Pieces
import ClaimCheck.Proofs.Web.Authority
import ClaimCheck.Proofs.Web.Percent

/-!
# Plain hosts

A host of lower-case letters, digits and dots is its own ASCII form, and if its last label is made of
letters it is a domain and no numeric address (`webHost_of_isPlainHost`).  In an address such a host
ends at the first slash and has neither a user before it nor a port behind it
(`readAuthority_of_isPlainHost`).
-/

namespace ClaimCheck.Web

open Text

variable {c : Char} {host : List Char}

/-! ## Characters of a plain host -/

/-- A character of a plain host. -/
def isHostChar (c : Char) : Bool := c.isLower || c.isDigit || c == '.'

/-- A character of a plain host by its number. -/
lemma isHostChar_iff_toNat : isHostChar c = true ↔
    (97 ≤ c.toNat ∧ c.toNat ≤ 122) ∨ (48 ≤ c.toNat ∧ c.toNat ≤ 57) ∨ c.toNat = 46 := by
  have hdot : c = '.' ↔ c.toNat = 46 := ⟨fun h => h ▸ rfl, fun h => Char.toNat_inj.mp h⟩
  rw [isHostChar, Bool.or_eq_true, Bool.or_eq_true, isLower_iff_toNat, Char.isDigit_iff_toNat,
    beq_iff_eq, hdot, or_assoc]
  rfl

/-- A host of lower-case letters, digits and dots, with letters only in its last label. -/
structure IsPlainHost (host : List Char) : Prop where
  chars : ∀ c ∈ host, isHostChar c = true
  last : ∃ last, (pieces '.' host).getLast? = some last ∧ last ≠ [] ∧ ∀ c ∈ last, c.isLower = true

/-- A plain host is not empty. -/
lemma IsPlainHost.ne_nil (h : IsPlainHost host) : host ≠ [] := by
  rintro rfl
  obtain ⟨last, hlast, hne, -⟩ := h.last
  exact hne (Option.some_inj.mp hlast.symm)

/-! ## Domain names -/

namespace Domain

/-- A plain host is spelled in lower case. -/
lemma map_toLower_of_isHostChar (hhost : ∀ c ∈ host, isHostChar c = true) :
    host.map Char.toLower = host := by
  have hlower : ∀ c ∈ host, c.toLower = id c := by
    intro c hc
    have hnat := isHostChar_iff_toNat.mp (hhost c hc)
    refine Char.toLower_eq_of_not_isUpper fun hupper => ?_
    simp only [Char.isUpper, decide_eq_true_eq, ge_iff_le, UInt32.le_iff_toNat_le] at hupper
    have hbounds : 65 ≤ c.toNat ∧ c.toNat ≤ 90 := hupper
    omega
  rw [List.map_congr_left hlower, List.map_id]

/-- A plain host is in ASCII and has no label in Punycode. -/
lemma isPlain_of_isHostChar (hhost : ∀ c ∈ host, isHostChar c = true) : isPlain host = true := by
  have hascii : host.all isAscii = true := by
    rw [List.all_eq_true]
    intro c hc
    have hnat := isHostChar_iff_toNat.mp (hhost c hc)
    rw [isAscii, decide_eq_true_eq]
    omega
  have hhyphen : '-' ∉ host := notMem_of_holds hhost (by decide)
  -- the mark of Punycode has a hyphen in it
  have hlabels : ((pieces '.' host).all fun label =>
      (dropPrefix? punycodeMark label).isNone) = true := by
    rw [List.all_eq_true]
    intro label hlabel
    rw [dropPrefix?_eq_none (by decide : '-' ∈ punycodeMark)
      fun hmem => hhyphen (mem_of_mem_pieces hlabel hmem)]
    rfl
  rw [isPlain, hascii, map_toLower_of_isHostChar hhost, hlabels]
  rfl

/-- A plain host is its own ASCII form. -/
lemma asciiForm?_of_isHostChar (hhost : ∀ c ∈ host, isHostChar c = true) :
    asciiForm? host = some host := by
  have hallowed : host.any isForbidden = false := by
    rw [List.any_eq_false]
    intro c hc hforbidden
    have hnat := isHostChar_iff_toNat.mp (hhost c hc)
    simp only [isForbidden, Bool.or_eq_true, decide_eq_true_eq, beq_iff_eq,
      List.contains_iff_mem] at hforbidden
    rcases hforbidden with (hlow | hdelete) | hmem
    · omega
    · omega
    · have hreserved : (['%', '#', '/', ':', '<', '>', '?', '@', '[', '\\', ']', '^', '|'].all
          fun d => !isHostChar d) = true := rfl
      have hnone := List.all_eq_true.mp hreserved c hmem
      rw [hhost c hc] at hnone
      cases hnone
  rw [asciiForm?, if_pos (isPlain_of_isHostChar hhost), plainForm?, map_toLower_of_isHostChar hhost,
    hallowed]
  rfl

end Domain

/-! ## Hosts that are no numbers -/

/-- A label of letters is no part of a numeric address. -/
lemma part?_of_isLower {label : List Char} (hlower : ∀ c ∈ label, c.isLower = true) :
    part? label = none := by
  have hzero : '0' ∉ label := by
    intro hmem
    have h := hlower '0' hmem
    cases h
  cases label with
  | nil => rfl
  | cons c rest =>
    have hvalue : ((hexValue? c).any (· < 10)) = false := by
      have hnat := isLower_iff_toNat.mp (hlower c List.mem_cons_self)
      cases hdigit : hexValue? c with
      | none => rfl
      | some n =>
        have hn := hexValue?_eq_some_iff.mp hdigit
        rw [Option.any_some, decide_eq_false_iff_not]
        omega
    have hc : c ≠ '0' := fun h => hzero (h ▸ List.mem_cons_self)
    unfold part?
    split
    · rfl
    · next heq => exact absurd (List.cons.inj heq).1 hc
    · next heq => exact absurd (List.cons.inj heq).1 hc
    · next heq => exact absurd (List.cons.inj heq).1 hc
    · next heq => exact absurd (List.cons.inj heq).1 hc
    · rw [partOfDigits?, List.all_cons, hvalue]
      rfl

/-- A plain host is no number, since its last label is made of letters. -/
lemma IsPlainHost.endsInNumber (h : IsPlainHost host) : endsInNumber host = false := by
  obtain ⟨last, hlast, hne, hlower⟩ := h.last
  have hparts : addressParts host = pieces '.' host := by
    unfold addressParts
    dsimp only
    rw [hlast, if_neg fun h => hne (Option.some_inj.mp h)]
  have hdigits : last.all isDigit = false := by
    obtain ⟨c, rest, rfl⟩ := List.exists_cons_of_ne_nil hne
    have hnat := isLower_iff_toNat.mp (hlower c List.mem_cons_self)
    have hdigit : isDigit c = false := by
      have hbounds : isDigit c = true ↔ 48 ≤ c.toNat ∧ c.toNat ≤ 57 := by
        rw [isDigit, Bool.and_eq_true, decide_eq_true_eq, decide_eq_true_eq]
        rfl
      rw [Bool.eq_false_iff, ne_eq, hbounds]
      omega
    rw [List.all_cons, hdigit]
    rfl
  unfold Web.endsInNumber
  rw [hparts, hlast]
  dsimp only
  rw [hdigits, part?_of_isLower hlower, Bool.and_false]
  rfl

namespace Address

/-- A plain host is a domain. -/
lemma webHost_of_isPlainHost (h : IsPlainHost host) :
    webHost host = .ok (.domain (String.ofList host)) := by
  have hbracket : host.head? ≠ some '[' := by
    intro hhead
    exact notMem_of_holds h.chars (by decide) (List.mem_of_mem_head? hhead)
  have hpercent : '%' ∉ host := notMem_of_holds h.chars (by decide)
  obtain ⟨c, rest, hcons⟩ := List.exists_cons_of_ne_nil h.ne_nil
  unfold webHost
  rw [if_neg hbracket, percentDecode?_of_notMem hpercent, Option.bind_some,
    Domain.asciiForm?_of_isHostChar h.chars, hcons]
  dsimp only
  rw [← hcons, h.endsInNumber]
  rfl

/-! ## Authorities of a plain host -/

variable {kind : Kind}

/-- A character of a plain host does not end an authority. -/
lemma endsAuthority_of_isHostChar (hc : isHostChar c = true) : endsAuthority kind c = false := by
  have hne : ∀ mark, isHostChar mark = false → (c == mark) = false :=
    fun mark hmark => beq_eq_false_iff_ne.mpr (ne_of_holds hc hmark)
  rw [endsAuthority, hne '/' (by decide), hne '?' (by decide), hne '#' (by decide),
    hne '\\' (by decide), Bool.and_false]
  rfl

/-- A plain host up to a slash has no user before it. -/
lemma splitUser_of_isHostChar (hhost : ∀ c ∈ host, isHostChar c = true) (rest : List Char) :
    splitUser kind (host ++ '/' :: rest) = (.none, host ++ '/' :: rest) := by
  have hends : ∀ c ∈ host, (!endsAuthority kind c) = true := by
    intro c hc
    rw [endsAuthority_of_isHostChar (hhost c hc)]
    rfl
  have hslash : ('/' :: rest).takeWhile (!endsAuthority kind ·) = [] := rfl
  have hat : '@' ∉ host.reverse := by
    rw [List.mem_reverse]
    exact notMem_of_holds hhost (by decide)
  unfold splitUser
  dsimp only
  rw [List.takeWhile_append_of_pos hends, hslash, List.append_nil, splitFirst?_eq_none.mpr hat]

/-- A plain host ends at the first slash. -/
lemma hostLength_of_isHostChar (hhost : ∀ c ∈ host, isHostChar c = true) (rest : List Char)
    (length : Nat) :
    hostLength kind false length (host ++ '/' :: rest) = length + host.length := by
  induction host generalizing length with
  | nil => rfl
  | cons c host ih =>
    obtain ⟨hc, hrest⟩ := List.forall_mem_cons.mp hhost
    have hne : ∀ mark, isHostChar mark = false → c ≠ mark := fun mark => ne_of_holds hc
    have hgoes : ¬ (endsAuthority kind c || (c == ':' && !false)) = true := by
      rw [endsAuthority_of_isHostChar hc, beq_eq_false_iff_ne.mpr (hne ':' (by decide))]
      exact Bool.false_ne_true
    rw [List.cons_append, hostLength, if_neg hgoes, if_neg (hne '[' (by decide)),
      if_neg (hne ']' (by decide)), ih hrest, List.length_cons]
    omega

/-- A plain host up to a slash is the whole authority of an address of the web. -/
lemma readAuthority_of_isPlainHost (h : IsPlainHost host) (port : Nat) (rest : List Char) :
    readAuthority (.web port) (host ++ '/' :: rest) =
      .ok (.domain (String.ofList host), none, '/' :: rest) := by
  have hnonempty : ¬ host.isEmpty = true := fun hempty => h.ne_nil (List.isEmpty_iff.mp hempty)
  rw [readAuthority_web, splitUser_of_isHostChar h.chars, readHostAndPort_web,
    hostLength_of_isHostChar h.chars, Nat.zero_add, List.take_left, List.drop_left, if_neg hnonempty,
    webHost_of_isPlainHost h]
  rfl

/-- The slashes before a plain host are passed over. -/
lemma dropWhile_isSlash_of_isPlainHost (h : IsPlainHost host) (rest : List Char) :
    ('/' :: '/' :: (host ++ rest)).dropWhile isSlash = host ++ rest := by
  obtain ⟨first, others, rfl⟩ := List.exists_cons_of_ne_nil h.ne_nil
  have hchar := h.chars first List.mem_cons_self
  have hfirst : isSlash first = false := by
    rw [isSlash, beq_eq_false_iff_ne.mpr (ne_of_holds hchar (by decide)),
      beq_eq_false_iff_ne.mpr (ne_of_holds hchar (by decide))]
    rfl
  rw [List.dropWhile_cons_of_pos rfl, List.dropWhile_cons_of_pos rfl, List.cons_append,
    List.dropWhile_cons_of_neg (Bool.eq_false_iff.mp hfirst)]

end Address

end ClaimCheck.Web
