import Mathlib
import ClaimCheck.Text.Utf8

/-!
# The order of texts

Names are listed in the order of their bytes (`Precedes`): at the first place where two of them
differ the smaller byte decides, and what ends there comes first.  UTF-8 keeps the order of
characters (`utf8EncodeChar_append_lt`), so this is the order of the texts themselves, by characters
(`precedes_iff_lt`).
-/

namespace ClaimCheck.Text

/-- The bytes of a text come before those of another one. -/
def Precedes (s t : String) : Prop := s.toUTF8.data.toList < t.toUTF8.data.toList

instance (s t : String) : Decidable (Precedes s t) :=
  inferInstanceAs (Decidable (s.toUTF8.data.toList < t.toUTF8.data.toList))

/-- The bytes of a text are those of its characters. -/
lemma toList_toUTF8 (s : String) : s.toUTF8.data.toList = s.toList.flatMap String.utf8EncodeChar := by
  have hbytes : s.toByteArray = s.toList.utf8Encode := by
    rw [← String.toByteArray_ofList, String.ofList_toList]
  rw [String.toUTF8_eq_toByteArray, hbytes, List.utf8Encode, List.data_toByteArray]

/-- Of two characters the smaller one has the smaller bytes, and these decide whatever follows. -/
lemma utf8EncodeChar_append_lt {c d : Char} (h : c < d) (xs ys : List UInt8) :
    String.utf8EncodeChar c ++ xs < String.utf8EncodeChar d ++ ys := by
  have hval : c.val.toNat < d.val.toNat := UInt32.lt_iff_toNat_lt.mp h
  have hd : d.val.toNat < 0x110000 := by
    rcases d.valid with hlow | ⟨-, hhigh⟩
    · exact Nat.lt_trans hlow (by decide)
    · exact hhigh
  have hlt : ∀ a b : Nat, a < 256 → b < 256 → (UInt8.ofNat a < UInt8.ofNat b ↔ a < b) := by
    intro a b ha hb
    rw [UInt8.lt_iff_toNat_lt, UInt8.toNat_ofNat_of_lt' ha, UInt8.toNat_ofNat_of_lt' hb]
  have heq : ∀ a b : Nat, a < 256 → b < 256 → (UInt8.ofNat a = UInt8.ofNat b ↔ a = b) := by
    intro a b ha hb
    rw [← UInt8.toNat_inj, UInt8.toNat_ofNat_of_lt' ha, UInt8.toNat_ofNat_of_lt' hb]
  unfold String.utf8EncodeChar
  dsimp only
  generalize c.val.toNat = m at *
  generalize d.val.toNat = n at *
  -- the bits of a character are cut into pieces, and the first one is not cut any further
  have hpieces : ∀ k < 0x110000, k / 64 / 64 = k / 4096 ∧ k / 4096 / 64 = k / 262144 ∧
      k / 262144 % 8 = k / 262144 := by
    intro k hk
    refine ⟨Nat.div_div_eq_div_mul .., Nat.div_div_eq_div_mul .., Nat.mod_eq_of_lt ?_⟩
    omega
  obtain ⟨hm, hm', hm''⟩ := hpieces m (Nat.lt_trans hval hd)
  obtain ⟨hn, hn', hn''⟩ := hpieces n hd
  -- one to four bytes each: the first byte tells how many there are
  split_ifs <;>
    simp (disch := omega) only [List.cons_append, List.nil_append, List.cons_lt_cons_iff, hlt, heq] <;>
    omega

/-- Texts are ordered by their characters as their bytes are. -/
lemma flatMap_utf8EncodeChar_lt {cs ds : List Char} (h : cs < ds) :
    cs.flatMap String.utf8EncodeChar < ds.flatMap String.utf8EncodeChar := by
  induction cs generalizing ds with
  | nil =>
    cases ds with
    | nil => exact absurd h (List.lt_irrefl [])
    | cons d ds =>
      obtain ⟨b, bytes, hbytes⟩ := List.exists_cons_of_ne_nil (String.utf8EncodeChar_ne_nil (c := d))
      rw [List.flatMap_nil, List.flatMap_cons, hbytes]
      exact List.nil_lt_cons _ _
  | cons c cs ih =>
    cases ds with
    | nil => exact absurd h (List.not_lt_nil _)
    | cons d ds =>
      rw [List.flatMap_cons, List.flatMap_cons]
      rcases List.cons_lt_cons_iff.mp h with hlt | ⟨rfl, hrest⟩
      · exact utf8EncodeChar_append_lt hlt _ _
      · exact List.append_left_lt (ih hrest)

/-- The order of the bytes is that of the texts. -/
lemma precedes_iff_lt {s t : String} : Precedes s t ↔ s < t := by
  have hmono : ∀ {s t : String}, s < t → Precedes s t := by
    intro s t h
    unfold Precedes
    rw [toList_toUTF8, toList_toUTF8]
    exact flatMap_utf8EncodeChar_lt (String.lt_iff_toList_lt.mp h)
  refine ⟨fun h => ?_, hmono⟩
  rcases lt_trichotomy s t with hlt | rfl | hgt
  · exact hlt
  · exact absurd h (List.lt_irrefl _)
  · exact absurd h (List.lt_asymm (hmono hgt))

end ClaimCheck.Text
