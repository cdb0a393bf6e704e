import Mathlib
import ClaimCheck.Proofs.Text.Decimal
import ClaimCheck.Proofs.Toml.Strings
import ClaimCheck.Toml.Document

/-!
# Documents of settings

A document that has nothing but lines of settings, each with another key of letters, digits and
underscores, reads back as these settings in their order (`parse?_settings`).  For the values it is
enough that each is read back in front of a line end (`Setting.IsWritten`): strings are, whatever
their texts (`isWritten_text`), and the digits of a number are when it fits in a signed word
(`isWritten_number`).  Digits are first tried as a date, a time and a fraction, and a line end after
them is the reason why they are none of these (`dropDateTime?_digits`, `dropFraction?_digits`).
-/

namespace ClaimCheck.Toml

open ClaimCheck.Text

/-! ## Keys -/

/-- A character of a kind is none that is not of that kind. -/
lemma ne_of_kind {kind : Char → Bool} {c d : Char} (hc : kind c = true) (hd : kind d = false) :
    c ≠ d := by
  rintro rfl
  rw [hd] at hc
  cases hc

/-- A character of a key is no blank. -/
lemma isBlank_of_isKeyChar {c : Char} (hc : isKeyChar c = true) : isBlank c = false := by
  have hspace := ne_of_kind hc (d := ' ') (by decide)
  have htab := ne_of_kind hc (d := '\t') (by decide)
  simp [isBlank, hspace, htab]

/-- Nothing is dropped before what is no blank. -/
lemma skipBlank_cons {c : Char} (hc : isBlank c = false) (cs : List Char) :
    skipBlank (c :: cs) = c :: cs :=
  List.dropWhile_cons_of_neg (by simp [hc])

/-- A key of key characters reads back in front of an equals sign. -/
lemma readKey_append {key : List Char} (hne : key ≠ []) (hkey : ∀ c ∈ key, isKeyChar c = true)
    (rest : List Char) :
    readKey (key ++ ' ' :: '=' :: rest) = some (([], String.ofList key), '=' :: rest) := by
  obtain ⟨c, more, rfl⟩ := List.exists_cons_of_ne_nil hne
  have hc := hkey c List.mem_cons_self
  have htake : (c :: more ++ ' ' :: '=' :: rest).takeWhile isKeyChar = c :: more := by
    rw [List.takeWhile_append_of_pos hkey, List.takeWhile_cons_of_neg (by decide), List.append_nil]
  have hdrop : (c :: more ++ ' ' :: '=' :: rest).dropWhile isKeyChar = ' ' :: '=' :: rest := by
    rw [List.dropWhile_append_of_pos hkey, List.dropWhile_cons_of_neg (by decide)]
  have hpart : readKeyPart (c :: more ++ ' ' :: '=' :: rest) =
      some (String.ofList (c :: more), ' ' :: '=' :: rest) := by
    unfold readKeyPart
    split
    · next heq => exact absurd (List.cons.inj heq).1 (ne_of_kind hc (by decide))
    · next heq => exact absurd (List.cons.inj heq).1 (ne_of_kind hc (by decide))
    · rw [htake, hdrop]
  have hstart : skipBlank (c :: more ++ ' ' :: '=' :: rest) = c :: more ++ ' ' :: '=' :: rest :=
    skipBlank_cons (isBlank_of_isKeyChar hc) _
  have hend : skipBlank (' ' :: '=' :: rest) = '=' :: rest := rfl
  rw [readKey, maxDepth, readKeyFrom, hstart, hpart]
  simp only [hend]
  rfl

/-! ## Numbers -/

/-- A number of so many digits is read from the digits, which go on behind it. -/
lemma readFixed_digits {digits rest after : List Char} {width n : Nat}
    (h : readFixed width (digits ++ '\n' :: rest) = some (n, after)) :
    after = digits.drop width ++ '\n' :: rest := by
  unfold readFixed at h
  dsimp only at h
  split at h
  · next hfixed =>
    cases h
    by_cases hwidth : width ≤ digits.length
    · exact List.drop_append_of_le_length hwidth
    · -- a run that is longer than the digits has the line end in it
      have hmem : '\n' ∈ (digits ++ '\n' :: rest).take width := by
        rw [List.take_append, List.take_of_length_le (by omega)]
        obtain ⟨k, hk⟩ : ∃ k, width - digits.length = k + 1 := ⟨width - digits.length - 1, by omega⟩
        rw [hk, List.take_succ_cons]
        simp
      exact absurd (List.all_eq_true.mp hfixed.2 _ hmem) (by decide)
  · cases h

section Digits

variable {digits : List Char} (hdigits : ∀ c ∈ digits, isDigit c = true) (rest : List Char)

include hdigits

/-- Digits and a line end do not start with any other mark. -/
lemma dropMark?_digits (mark : Char) (hmark : isDigit mark = false) (hline : '\n' ≠ mark) :
    dropMark? mark (digits ++ '\n' :: rest) = none := by
  cases digits with
  | nil => exact if_neg hline
  | cons c digits => exact if_neg (ne_of_kind (hdigits c List.mem_cons_self) hmark)

/-- The digits that are left behind a number. -/
lemma isDigit_of_mem_drop {width : Nat} {c : Char} (hc : c ∈ digits.drop width) : isDigit c = true :=
  hdigits c (List.mem_of_mem_drop hc)

/-- Digits and a line end are no date and no time. -/
lemma dropDateTime?_digits : dropDateTime? (digits ++ '\n' :: rest) = none := by
  have hdate : dropDate? (digits ++ '\n' :: rest) = none := by
    unfold dropDate?
    cases hyear : readFixed 4 (digits ++ '\n' :: rest) with
    | none => rfl
    | some year =>
      obtain ⟨n, after⟩ := year
      obtain rfl := readFixed_digits hyear
      simp [dropMark?_digits (fun c => isDigit_of_mem_drop hdigits) rest '-' (by decide) (by decide)]
  have htime : dropTime? (digits ++ '\n' :: rest) = none := by
    unfold dropTime?
    cases hhour : readPair 0 23 (digits ++ '\n' :: rest) with
    | none => rfl
    | some hour =>
      obtain ⟨n, after⟩ := hour
      obtain rfl : after = digits.drop 2 ++ '\n' :: rest := by
        unfold readPair at hhour
        split at hhour
        · next hfixed =>
          split at hhour
          · cases hhour
            exact readFixed_digits hfixed
          · cases hhour
        · cases hhour
      simp [dropMark?_digits (fun c => isDigit_of_mem_drop hdigits) rest ':' (by decide) (by decide)]
  unfold dropDateTime?
  rw [hdate]
  exact htime

/-- A run of digits goes on to the line end. -/
lemma readRunFrom_digits (before : List Char) :
    readRunFrom isDigit before (digits ++ '\n' :: rest) =
      some (before.reverse ++ digits, '\n' :: rest) := by
  induction digits generalizing before with
  | nil =>
    rw [List.nil_append, readRunFrom, if_neg (by decide), List.append_nil]
    · exact fun _ _ heq => absurd heq (by decide)
    · exact fun heq => absurd heq (by decide)
  | cons c digits ih =>
    have hc := hdigits c List.mem_cons_self
    have hne : c ≠ '_' := ne_of_kind hc (by decide)
    rw [List.cons_append, readRunFrom, if_pos hc,
      ih fun d hd => hdigits d (List.mem_cons_of_mem _ hd), List.reverse_cons, List.append_assoc,
      List.singleton_append]
    · exact fun _ _ heq => absurd heq hne
    · exact fun heq => absurd heq hne

/-- The value of digits in base ten. -/
lemma valueInBase_digits : valueInBase 10 digits = valueOfDigits 0 digits := by
  unfold valueInBase valueOfDigits
  refine List.foldl_ext _ _ _ fun n c hc => ?_
  have hc := hdigits c hc
  simp only [isDigit, Bool.and_eq_true, decide_eq_true_eq] at hc
  simp [hexValue?, hc, digitValue]

end Digits

/-- A whole number is read up to its line end. -/
lemma readWhole_decimal (n : Nat) (rest : List Char) :
    readWhole (decimal n ++ '\n' :: rest) = some (decimal n, '\n' :: rest) := by
  have hdigits : ∀ c ∈ decimal n, isDigit c = true := fun c => isDigit_of_mem_decimal
  rcases decimal_eq_cons n with hzero | ⟨c, more, hcons, hc⟩
  · rw [hzero]
    rfl
  · rw [hcons] at hdigits ⊢
    have hrun := readRunFrom_digits (fun d hd => hdigits d (List.mem_cons_of_mem _ hd)) rest [c]
    rw [List.cons_append, readWhole, readRun, if_pos (hdigits c List.mem_cons_self), hrun]
    · rfl
    · exact fun _ heq => hc (List.cons.inj heq).1

/-- A number has no sign in front. -/
lemma readSign_decimal (n : Nat) (rest : List Char) :
    readSign (decimal n ++ rest) = (false, decimal n ++ rest) := by
  have hdigits : ∀ c ∈ decimal n, isDigit c = true := fun c => isDigit_of_mem_decimal
  obtain ⟨c, more, hcons⟩ := List.exists_cons_of_ne_nil (l := decimal n) Nat.toDigits_ne_nil
  rw [hcons] at hdigits ⊢
  have hc := hdigits c List.mem_cons_self
  rw [List.cons_append, readSign]
  · exact fun _ heq => ne_of_kind hc (d := '+') (by decide) (List.cons.inj heq).1
  · exact fun _ heq => ne_of_kind hc (d := '-') (by decide) (List.cons.inj heq).1

/-- Digits and a line end are no fraction. -/
lemma dropFraction?_decimal (n : Nat) (rest : List Char) :
    dropFraction? (decimal n ++ '\n' :: rest) = none := by
  have hdigits : ∀ c ∈ decimal n, isDigit c = true := fun c => isDigit_of_mem_decimal
  have hwhole := readWhole_decimal n rest
  obtain ⟨c, more, hcons⟩ := List.exists_cons_of_ne_nil (l := decimal n) Nat.toDigits_ne_nil
  unfold dropFraction?
  rw [readSign_decimal]
  rw [hcons] at hdigits hwhole ⊢
  have hc := hdigits c List.mem_cons_self
  dsimp only
  split
  · next heq => exact absurd (List.cons.inj heq).1 (ne_of_kind hc (by decide))
  · next heq => exact absurd (List.cons.inj heq).1 (ne_of_kind hc (by decide))
  · rw [hwhole]
    rfl

/-- A number that fits in a signed word reads back from its digits. -/
lemma readInteger_decimal {n : Nat} (h : n < 0x8000000000000000) (rest : List Char) :
    readInteger (decimal n ++ '\n' :: rest) = some ((n : Int), '\n' :: rest) := by
  have hdigits : ∀ c ∈ decimal n, isDigit c = true := fun c => isDigit_of_mem_decimal
  have hvalue : valueInBase 10 (decimal n) = n := by
    rw [valueInBase_digits hdigits, valueOfDigits_decimal]
  have hword : isWord n = true := by
    simp only [isWord, Bool.and_eq_true, decide_eq_true_eq]
    omega
  -- what follows a zero is the line end and not the letter of another base
  have hbase : ∀ c more, isDigit c = false → c ≠ '\n' →
      decimal n ++ '\n' :: rest ≠ '0' :: c :: more := by
    intro c more hc hline heq
    generalize decimal n = digits at hdigits heq
    rcases digits with _ | ⟨d, _ | ⟨e, digits⟩⟩
    · exact absurd (List.cons.inj heq).1 (by decide)
    · exact hline (List.cons.inj (List.cons.inj heq).2).1.symm
    · have he : isDigit e = true := hdigits e (List.mem_cons_of_mem _ List.mem_cons_self)
      exact ne_of_kind he hc (List.cons.inj (List.cons.inj heq).2).1
  unfold readInteger
  split
  · next heq => exact absurd heq (hbase _ _ (by decide) (by decide))
  · next heq => exact absurd heq (hbase _ _ (by decide) (by decide))
  · next heq => exact absurd heq (hbase _ _ (by decide) (by decide))
  · rw [readSign_decimal]
    dsimp only
    rw [readWhole_decimal]
    simp [hvalue, hword]

/-! ## Settings -/

/-- A setting of a document: its key, how its value is written, and the value. -/
structure Setting where
  key : String
  shown : List Char
  value : Value

namespace Setting

/-- The line of a setting. -/
def line (s : Setting) : List Char := settingLine s.key s.shown

/-- The entry of a setting in its table. -/
def entry (s : Setting) : String × Item := (s.key, .value s.value)

/-- A setting that reads back: its key needs no quotes, and its value is read up to the line end. -/
structure IsWritten (s : Setting) : Prop where
  key_ne : s.key.toList ≠ []
  key : ∀ c ∈ s.key.toList, isKeyChar c = true
  start : ∀ rest, skipBlank (s.shown ++ '\n' :: rest) = s.shown ++ '\n' :: rest
  value : ∀ fuel levels rest,
    readValue fuel levels (s.shown ++ '\n' :: rest) = some (s.value, '\n' :: rest)

end Setting

/-- A string of any form starts with a mark. -/
lemma stringChars_eq_cons (cs : List Char) :
    ∃ c rest, stringChars cs = c :: rest ∧ (c = '"' ∨ c = '\'') := by
  unfold stringChars
  cases styleOf cs with
  | basic => exact ⟨_, _, rfl, .inl rfl⟩
  | literal => exact ⟨_, _, rfl, .inr rfl⟩
  | lines => exact ⟨_, _, rfl, .inl rfl⟩
  | literalLines => exact ⟨_, _, rfl, .inr rfl⟩

/-- A setting with a text reads back. -/
lemma isWritten_text {key : String} (hne : key.toList ≠ [])
    (hkey : ∀ c ∈ key.toList, isKeyChar c = true) (text : String) :
    Setting.IsWritten ⟨key, stringChars text.toList, .text text⟩ := by
  refine ⟨hne, hkey, fun rest => ?_, fun fuel levels rest => ?_⟩
  · obtain ⟨c, more, hcons, hmark⟩ := stringChars_eq_cons text.toList
    change skipBlank (stringChars text.toList ++ _) = stringChars text.toList ++ _
    rw [hcons]
    refine skipBlank_cons ?_ _
    rcases hmark with rfl | rfl <;> decide
  · have hstring : readString (stringChars text.toList ++ '\n' :: rest) =
        some (text.toList, '\n' :: rest) := readString_stringChars (by simp) (by simp) text.toList
    obtain ⟨c, more, hcons, hmark⟩ := stringChars_eq_cons text.toList
    change readValue fuel levels (stringChars text.toList ++ '\n' :: rest) = _
    rw [hcons, List.cons_append] at hstring ⊢
    rw [readValue.eq_def]
    dsimp only
    rw [if_pos hmark, hstring]
    simp

/-- A setting with a number that fits in a signed word reads back. -/
lemma isWritten_number {key : String} (hne : key.toList ≠ [])
    (hkey : ∀ c ∈ key.toList, isKeyChar c = true) {n : Nat} (h : n < 0x8000000000000000) :
    Setting.IsWritten ⟨key, decimal n, .integer n⟩ := by
  have hdigits : ∀ c ∈ decimal n, isDigit c = true := fun c => isDigit_of_mem_decimal
  obtain ⟨c, more, hcons⟩ := List.exists_cons_of_ne_nil (l := decimal n) Nat.toDigits_ne_nil
  have hc : isDigit c = true := hdigits c (hcons ▸ List.mem_cons_self)
  refine ⟨hne, hkey, fun rest => ?_, fun fuel levels rest => ?_⟩
  · change skipBlank (decimal n ++ _) = decimal n ++ _
    rw [hcons]
    refine skipBlank_cons ?_ _
    have hspace := ne_of_kind hc (d := ' ') (by decide)
    have htab := ne_of_kind hc (d := '\t') (by decide)
    simp [isBlank, hspace, htab]
  · have hdate := dropDateTime?_digits hdigits rest
    have hfraction := dropFraction?_decimal n rest
    have hinteger := readInteger_decimal h rest
    have hstart : ∀ d, isDigit d = false → c ≠ d := fun d hd => ne_of_kind hc hd
    change readValue fuel levels (decimal n ++ '\n' :: rest) = _
    rw [hcons, List.cons_append] at hdate hfraction hinteger ⊢
    rw [readValue.eq_def]
    dsimp only
    rw [if_neg (not_or.mpr ⟨hstart _ (by decide), hstart _ (by decide)⟩),
      if_neg (hstart _ (by decide)), if_neg (hstart _ (by decide)),
      if_neg (hstart _ (by decide)), if_neg (hstart _ (by decide)), hdate, hfraction, hinteger]
    rfl

/-! ## Documents -/

/-- A value is set at a key of the document that has none so far. -/
lemma Building.set_of_lookup_eq_none {items : Items} {key : String} (value : Value)
    (h : items.lookup key = none) :
    Building.set ⟨items, []⟩ [] key value = some ⟨items ++ [(key, .value value)], []⟩ := by
  have hset : Items.set key (.value value) items = some (items ++ [(key, .value value)]) := by
    unfold Items.set
    rw [h]
    rfl
  change Option.map _ (Items.set key (.value value) items) = _
  rw [hset]
  rfl

variable {s : Setting}

/-- The line of a setting reads back as the setting, up to its line end. -/
lemma readSetting_line (hs : s.IsWritten) {items : Items} (hnew : items.lookup s.key = none)
    (fuel : Nat) (rest : List Char) :
    readSetting fuel ⟨items, []⟩ (s.line ++ rest) =
      some (⟨items ++ [s.entry], []⟩, '\n' :: rest) := by
  have hline : s.line ++ rest =
      s.key.toList ++ ' ' :: '=' :: ' ' :: (s.shown ++ '\n' :: rest) := by
    simp [Setting.line, settingLine]
  have hblank : skipBlank (' ' :: (s.shown ++ '\n' :: rest)) = s.shown ++ '\n' :: rest := by
    have hstart := hs.start rest
    unfold skipBlank at hstart ⊢
    rw [List.dropWhile_cons_of_pos (by decide), hstart]
  unfold readSetting
  rw [hline, readKey_append hs.key_ne hs.key]
  simp [dropMark?, hblank, hs.value, Building.set_of_lookup_eq_none s.value hnew, Setting.entry]

/-- A line of a setting is read and the lines after it are. -/
lemma readLines_line (hs : s.IsWritten) {items : Items} (hnew : items.lookup s.key = none)
    (size fuel : Nat) (rest : List Char) :
    readLines size (fuel + 1) ⟨items, []⟩ (s.line ++ rest) =
      readLines size fuel ⟨items ++ [s.entry], []⟩ rest := by
  have hsetting := readSetting_line hs hnew size rest
  obtain ⟨c, more, hcons⟩ := List.exists_cons_of_ne_nil hs.key_ne
  have hc : isKeyChar c = true := hs.key c (hcons ▸ List.mem_cons_self)
  obtain ⟨tail, hline⟩ : ∃ tail, s.line ++ rest = c :: tail := by
    unfold Setting.line settingLine
    rw [hcons]
    exact ⟨_, rfl⟩
  rw [hline] at hsetting ⊢
  rw [readLines, skipBlank_cons (isBlank_of_isKeyChar hc)]
  split
  · next heq => cases heq
  · next heq => exact absurd (List.cons.inj heq).1 (ne_of_kind hc (by decide))
  · next heq =>
    cases heq
    have hnone : ¬ (c = '#' ∨ c = '\n' ∨ c = '\r') := by
      rintro (rfl | rfl | rfl) <;> exact absurd hc (by decide)
    rw [if_neg hnone, hsetting]
    rfl

/-- Lines of settings with different keys are read one after another. -/
lemma readLines_settings {settings : List Setting} (hsettings : ∀ s ∈ settings, s.IsWritten)
    {items : Items} (hkeys : ((items.map Prod.fst) ++ settings.map Setting.key).Nodup)
    (size : Nat) {fuel : Nat} (hfuel : settings.length < fuel) :
    readLines size fuel ⟨items, []⟩ (settings.flatMap Setting.line) =
      some (items ++ settings.map Setting.entry) := by
  induction settings generalizing items fuel with
  | nil =>
    obtain ⟨fuel, rfl⟩ : ∃ n, fuel = n + 1 := ⟨fuel - 1, by simp at hfuel; omega⟩
    rw [List.map_nil, List.append_nil]
    rfl
  | cons s settings ih =>
    obtain ⟨fuel, rfl⟩ : ∃ n, fuel = n + 1 := ⟨fuel - 1, by simp at hfuel; omega⟩
    have hnew : items.lookup s.key = none := by
      refine List.lookup_eq_none_iff.mpr fun entry hentry => ?_
      have hapart := (List.nodup_append.mp hkeys).2.2 entry.1 (List.mem_map_of_mem hentry) s.key
        List.mem_cons_self
      simpa using hapart.symm
    rw [List.flatMap_cons, readLines_line (hsettings s List.mem_cons_self) hnew,
      ih (fun t ht => hsettings t (List.mem_cons_of_mem _ ht)) ?_ ?_]
    · simp
    · simpa [Setting.entry] using hkeys
    · simpa using hfuel

/-- Every line has a character at least. -/
lemma length_le_flatMap_line (settings : List Setting) :
    settings.length ≤ (settings.flatMap Setting.line).length := by
  induction settings with
  | nil => exact Nat.le_refl 0
  | cons s settings ih =>
    have hline : 0 < s.line.length := by simp [Setting.line, settingLine]
    rw [List.flatMap_cons, List.length_append, List.length_cons]
    omega

/-- A document of settings with different keys reads back as these settings. -/
theorem parse?_settings {settings : List Setting} (hsettings : ∀ s ∈ settings, s.IsWritten)
    (hkeys : (settings.map Setting.key).Nodup) :
    parse? (String.ofList (settings.flatMap Setting.line)) = some (settings.map Setting.entry) := by
  have hmark : (settings.flatMap Setting.line).head? ≠ some '\uFEFF' := by
    cases settings with
    | nil => simp
    | cons s settings =>
      have hs := hsettings s List.mem_cons_self
      obtain ⟨c, more, hcons⟩ := List.exists_cons_of_ne_nil hs.key_ne
      have hc : isKeyChar c = true := hs.key c (hcons ▸ List.mem_cons_self)
      have hne : c ≠ '\uFEFF' := ne_of_kind hc (by decide)
      simp [Setting.line, settingLine, hcons, hne]
  have hlength := length_le_flatMap_line settings
  unfold parse?
  rw [String.toList_ofList]
  dsimp only
  rw [if_neg hmark]
  exact readLines_settings hsettings (by simpa using hkeys) _ (by omega)

end ClaimCheck.Toml
