import Mathlib
import ClaimCheck.Proofs.Config.Overrides
import ClaimCheck.Proofs.Text.Decimal

/-!
# What variables make of a configuration

Of the variables that are put over a configuration only two things count: the last value that each
setting is given (`Config.lastValue?`), and the first number that cannot be read
(`Config.firstFault?`).  A number that cannot be read ends the reading, also if another one comes
later (`Config.foldlM_applyOverride_eq_error_iff`); otherwise every setting has the effect of its
last value, or the one that it had (`Config.effect_foldlM_applyOverride`).

Both depend on the pairs of one name only, so pairs of different names may change places, and what
was put over a configuration in two turns may be put over it in one
(`Config.withOverrides_congr`, `Config.withOverrides_overlays`).
-/

namespace ClaimCheck.Config

open Text

/-! ## Numbers -/

/-- Characters that write a number of a 64-bit word: one digit at least, with a plus sign before them
or not. -/
def WritesSize (cs : List Char) (n : Nat) : Prop :=
  ∃ digits, (cs = digits ∨ cs = '+' :: digits) ∧ digits ≠ [] ∧ (∀ c ∈ digits, isDigit c = true) ∧
    valueOfDigits 0 digits = n ∧ n ≤ 2 ^ 64 - 1

/-- Characters that write some number of a 64-bit word. -/
def IsSize (cs : List Char) : Prop := ∃ n, WritesSize cs n

/-- Digits that go on with a number are read if the whole number fits in a word. -/
lemma readSizeFrom_eq_ok_iff {start : Nat} (hstart : start < 2 ^ 64) {digits : List Char}
    {n : UInt64} :
    readSizeFrom start digits = .ok n ↔
      (∀ c ∈ digits, isDigit c = true) ∧ valueOfDigits start digits = n.toNat := by
  induction digits generalizing start with
  | nil =>
    constructor
    · intro h
      cases h
      exact ⟨by simp, (UInt64.toNat_ofNat_of_lt' hstart).symm⟩
    · rintro ⟨-, hvalue⟩
      change Except.ok (UInt64.ofNat start) = _
      rw [← UInt64.ofNat_toNat (x := n), ← hvalue]
      rfl
  | cons c rest ih =>
    have hvalue : valueOfDigits start (c :: rest) = valueOfDigits (start * 10 + digitValue c) rest :=
      rfl
    unfold readSizeFrom
    rw [hvalue, List.forall_mem_cons, and_assoc]
    cases hdigit : isDigit c with
    | false => simp
    | true =>
      by_cases hlarge : 0x10000000000000000 ≤ start * 10 + digitValue c
      · -- later digits do not make the number smaller
        have hgrows := le_valueOfDigits (start * 10 + digitValue c) rest
        have hword := n.toNat_lt
        simp only [hlarge, Bool.not_true, Bool.false_eq_true, if_false, if_true, true_and]
        constructor
        · intro h
          cases h
        · rintro ⟨-, heq⟩
          omega
      · simp only [hlarge, Bool.not_true, Bool.false_eq_true, if_false, true_and]
        exact ih (by omega)

/-- Exactly the numbers of a word are read. -/
lemma readSize_eq_ok_iff {cs : List Char} {n : UInt64} :
    readSize cs = .ok n ↔ WritesSize cs n.toNat := by
  have hword : n.toNat ≤ 2 ^ 64 - 1 := by
    have := n.toNat_lt
    omega
  have hfrom : ∀ digits : List Char, readSizeFrom 0 digits = .ok n ↔
      (∀ c ∈ digits, isDigit c = true) ∧ valueOfDigits 0 digits = n.toNat := fun digits =>
    readSizeFrom_eq_ok_iff (by decide)
  have hplus : isDigit '+' = false := by decide
  unfold WritesSize
  constructor
  · intro h
    unfold readSize at h
    split at h
    · cases h
    · next c rest =>
      obtain ⟨hdigits, hvalue⟩ := (hfrom _).mp h
      exact ⟨c :: rest, .inr rfl, List.cons_ne_nil _ _, hdigits, hvalue, hword⟩
    · next hnil _ =>
      obtain ⟨hdigits, hvalue⟩ := (hfrom _).mp h
      exact ⟨cs, .inl rfl, hnil, hdigits, hvalue, hword⟩
  · rintro ⟨digits, hcs, hne, hdigits, hvalue, -⟩
    obtain ⟨d, rest, rfl⟩ := List.exists_cons_of_ne_nil hne
    have hread := (hfrom _).mpr ⟨hdigits, hvalue⟩
    rcases hcs with rfl | rfl
    · -- the first digit is no plus sign
      have hd : d ≠ '+' := by
        rintro rfl
        rw [hdigits '+' List.mem_cons_self] at hplus
        cases hplus
      unfold readSize
      split
      · next heq => cases heq
      · next heq =>
        cases heq
        exact absurd rfl hd
      · exact hread
    · exact hread

/-- Why a text is no number, if it is none. -/
def sizeFault? (value : String) : Option NumberFault :=
  match readSize (trim value.toList) with
  | .ok _ => none
  | .error fault => some fault

/-- A text is no number exactly if there is a reason. -/
lemma isSome_sizeFault?_iff {value : String} :
    (sizeFault? value).isSome ↔ ¬ IsSize (trim value.toList) := by
  unfold sizeFault?
  cases hread : readSize (trim value.toList) with
  | ok n => exact iff_of_false (by simp) (not_not.mpr ⟨_, readSize_eq_ok_iff.mp hread⟩)
  | error fault =>
    refine iff_of_true rfl ?_
    rintro ⟨n, hwrites⟩
    have hlt : n < 2 ^ 64 := by
      obtain ⟨-, -, -, -, -, hle⟩ := hwrites
      omega
    rw [← UInt64.toNat_ofNat_of_lt' hlt] at hwrites
    rw [readSize_eq_ok_iff.mpr hwrites] at hread
    cases hread

/-! ## Names -/

/-- The name of the variable that replaces a setting. -/
def Key.fullName (key : Key) : String := variableStart ++ key.variableName

example : Key.fullName .thresholdBytes = "COURIER_OFFLOAD_THRESHOLD_BYTES" := rfl

/-- A variable replaces the setting whose name it has. -/
lemma ofVariable?_eq_some_iff {name : String} {key : Key} :
    Key.ofVariable? name = some key ↔ name = key.fullName := by
  constructor
  · intro h
    unfold Key.ofVariable? at h
    simpa [Key.fullName] using List.find?_some h
  · rintro rfl
    cases key <;> decide

/-! ## Pairs -/

variable {base c d : Config} {environment environment' : List (String × String)} {key : Key}

/-- The values that pairs give to a setting, in their order. -/
def valuesOf (environment : List (String × String)) (key : Key) : List String :=
  (environment.filter fun entry => entry.1 = key.fullName).map Prod.snd

/-- The last value that pairs give to a setting. -/
def lastValue? (environment : List (String × String)) (key : Key) : Option String :=
  (valuesOf environment key).getLast?

/-- Why the first threshold that is no number is none. -/
def firstFault? (environment : List (String × String)) : Option NumberFault :=
  (valuesOf environment .thresholdBytes).findSome? sizeFault?

/-- A value is given to a setting by a pair with its name. -/
lemma mem_valuesOf {value : String} :
    value ∈ valuesOf environment key ↔ (key.fullName, value) ∈ environment := by
  unfold valuesOf
  simp

/-- A pair with the name of a setting gives it a value. -/
lemma valuesOf_cons_self {entry : String × String} (h : Key.ofVariable? entry.1 = some key) :
    valuesOf (entry :: environment) key = entry.2 :: valuesOf environment key := by
  unfold valuesOf
  rw [List.filter_cons_of_pos (by simpa using ofVariable?_eq_some_iff.mp h), List.map_cons]

/-- A pair with another name gives a setting no value. -/
lemma valuesOf_cons_of_ne {entry : String × String} (h : Key.ofVariable? entry.1 ≠ some key) :
    valuesOf (entry :: environment) key = valuesOf environment key := by
  unfold valuesOf
  rw [List.filter_cons_of_neg (by simpa using fun heq => h (ofVariable?_eq_some_iff.mpr heq))]

/-- Some threshold is no number exactly if there is a first one. -/
lemma isSome_firstFault?_iff :
    (firstFault? environment).isSome ↔ ∃ value,
      (Key.fullName .thresholdBytes, value) ∈ environment ∧ ¬ IsSize (trim value.toList) := by
  unfold firstFault?
  rw [List.findSome?_isSome_iff]
  simp only [mem_valuesOf, isSome_sizeFault?_iff]

/-! ## One pair -/

/-- The fault of a threshold that is no number. -/
def thresholdFault (fault : NumberFault) : Fault := .invalid .thresholdBytes (.notNumber fault)

/-- The effect of a setting that is given a value. -/
def givenEffect (key : Key) (value : String) : Option String × UInt64 :=
  match key with
  | .thresholdBytes => (none, (readSize (trim value.toList)).toOption.getD 0)
  | .offloadContainer | .endpointSuffix => (some value, 0)
  | .offloadAccount | .channelNamespace | .identityClient => (dropBlank (some value), 0)

/-- A setting that was replaced has the effect of the value that it was given. -/
lemma effect_replace_self {value : String} (h : c.replace key value = .ok d) :
    d.effect key = givenEffect key value := by
  cases key with
  | thresholdBytes =>
    unfold replace at h
    unfold givenEffect
    cases hread : readSize (trim value.toList) with
    | error fault =>
      rw [hread] at h
      cases h
    | ok n =>
      rw [hread] at h
      cases h
      rfl
  | _ =>
    cases h
    rfl

/-- Only a threshold that is no number cannot replace what was there. -/
lemma replace_eq_error_iff {value : String} {fault : Fault} :
    c.replace key value = .error fault ↔
      key = .thresholdBytes ∧ (sizeFault? value).map thresholdFault = some fault := by
  cases key with
  | thresholdBytes =>
    unfold replace sizeFault? thresholdFault
    cases readSize (trim value.toList) <;> simp
  | _ => simp [replace]

/-- A pair cannot be put over a configuration if it gives a threshold that is no number. -/
lemma applyOverride_eq_error_iff {entry : String × String} {fault : Fault} :
    c.applyOverride entry = .error fault ↔
      Key.ofVariable? entry.1 = some .thresholdBytes ∧
        (sizeFault? entry.2).map thresholdFault = some fault := by
  unfold applyOverride
  cases Key.ofVariable? entry.1 with
  | none => simp
  | some named => simp [replace_eq_error_iff]

/-- A pair changes the effect of the setting that it names, and of no other. -/
lemma effect_applyOverride_eq {entry : String × String} (h : c.applyOverride entry = .ok d)
    (key : Key) :
    d.effect key = if Key.ofVariable? entry.1 = some key then givenEffect key entry.2
      else c.effect key := by
  obtain ⟨_, _, heffect⟩ := effect_applyOverride h c
  split
  · next hnamed =>
    unfold applyOverride at h
    rw [hnamed] at h
    exact effect_replace_self h
  · next hother => exact ((heffect key).2 hother).1

/-! ## All pairs -/

/-- Pairs cannot be put over a configuration exactly if some threshold is no number, and the first
one is the fault. -/
lemma foldlM_applyOverride_eq_error_iff {fault : Fault} :
    environment.foldlM applyOverride c = .error fault ↔
      (firstFault? environment).map thresholdFault = some fault := by
  induction environment generalizing c with
  | nil => exact iff_of_false (fun h => by cases h) fun h => by cases h
  | cons entry environment ih =>
    rw [List.foldlM_cons]
    cases happly : c.applyOverride entry with
    | error first =>
      obtain ⟨hnamed, hfirst⟩ := applyOverride_eq_error_iff.mp happly
      obtain ⟨cause, hcause, rfl⟩ := Option.map_eq_some_iff.mp hfirst
      unfold firstFault?
      rw [valuesOf_cons_self hnamed, List.findSome?_cons, hcause]
      simp [bind, Except.bind]
    | ok d =>
      have hrest : firstFault? (entry :: environment) = firstFault? environment := by
        unfold firstFault?
        by_cases hnamed : Key.ofVariable? entry.1 = some .thresholdBytes
        · have hnone : sizeFault? entry.2 = none := by
            by_contra hsome
            obtain ⟨cause, hcause⟩ := Option.ne_none_iff_exists'.mp hsome
            have herror := (applyOverride_eq_error_iff (c := c)).mpr
              ⟨hnamed, (congrArg _ hcause).trans (Option.map_some ..)⟩
            rw [herror] at happly
            cases happly
          rw [valuesOf_cons_self hnamed, List.findSome?_cons, hnone]
        · rw [valuesOf_cons_of_ne hnamed]
      rw [hrest]
      exact ih

/-- When all pairs were put over a configuration, every threshold was a number. -/
lemma firstFault?_of_foldlM (h : environment.foldlM applyOverride c = .ok d) :
    firstFault? environment = none := by
  by_contra hsome
  obtain ⟨cause, hcause⟩ := Option.ne_none_iff_exists'.mp hsome
  rw [foldlM_applyOverride_eq_error_iff.mpr ((congrArg _ hcause).trans (Option.map_some ..))] at h
  cases h

/-- When all pairs were put over a configuration, every setting has the effect of the last value
that it was given, or the effect that it had. -/
lemma effect_foldlM_applyOverride (h : environment.foldlM applyOverride c = .ok d) (key : Key) :
    d.effect key = ((lastValue? environment key).map (givenEffect key)).getD (c.effect key) := by
  induction environment generalizing c with
  | nil =>
    cases h
    rfl
  | cons entry environment ih =>
    rw [List.foldlM_cons] at h
    cases happly : c.applyOverride entry with
    | error fault =>
      rw [happly] at h
      cases h
    | ok c₁ =>
      rw [happly] at h
      rw [ih h, effect_applyOverride_eq happly]
      unfold lastValue?
      split
      · next hnamed =>
        -- the value counts only if none comes later
        rw [valuesOf_cons_self hnamed, List.getLast?_cons]
        cases (valuesOf environment key).getLast? <;> rfl
      · next hother => rw [valuesOf_cons_of_ne hother]

/-- When all pairs were put over a configuration, the normalized result is checked. -/
lemma withOverrides_of_foldlM (h : environment.foldlM applyOverride c = .ok d) :
    c.withOverrides environment = d.normalized.validated := by
  unfold withOverrides
  rw [h]
  rfl

/-- What comes of putting pairs over a configuration depends on the first fault, on the last value
of each setting and on the effects that the settings had. -/
lemma withOverrides_congr (hfault : firstFault? environment' = firstFault? environment)
    (hlast : ∀ key, lastValue? environment' key = lastValue? environment key)
    (heffect : ∀ key, d.effect key = c.effect key) :
    d.withOverrides environment' = c.withOverrides environment := by
  unfold withOverrides
  cases hfold : environment.foldlM applyOverride c with
  | error fault =>
    rw [foldlM_applyOverride_eq_error_iff, ← hfault,
      ← foldlM_applyOverride_eq_error_iff (c := d)] at hfold
    rw [hfold]
  | ok c₁ =>
    cases hfold' : environment'.foldlM applyOverride d with
    | error fault =>
      rw [foldlM_applyOverride_eq_error_iff, hfault,
        ← foldlM_applyOverride_eq_error_iff (c := c), hfold] at hfold'
      cases hfold'
    | ok d₁ =>
      have hsame : d₁.normalized = c₁.normalized := by
        refine normalized_eq_of_effect fun key => ?_
        rw [effect_foldlM_applyOverride hfold, effect_foldlM_applyOverride hfold', hlast, heffect]
      change d₁.normalized.validated = c₁.normalized.validated
      rw [hsame]

/-- What pairs leave does not change when more pairs are put over it: blank settings that were left
out have the effect that they had. -/
lemma withOverrides_append (h : base.withOverrides environment = .ok c)
    (more : List (String × String)) :
    c.withOverrides more = base.withOverrides (environment ++ more) := by
  cases hfold : environment.foldlM applyOverride base with
  | error fault =>
    unfold withOverrides at h
    rw [hfold] at h
    cases h
  | ok d =>
    rw [withOverrides_of_foldlM hfold] at h
    obtain rfl := eq_of_validated h
    have hgoes : base.withOverrides (environment ++ more) = d.withOverrides more := by
      unfold withOverrides
      rw [List.foldlM_append, hfold]
      rfl
    rw [hgoes]
    exact withOverrides_congr rfl (fun _ => rfl) fun key => effect_normalized d key

/-! ## The overlay -/

/-- A configuration is what pairs make of another one: each setting is the last value that it is
given, or as it was, and an optional setting that is blank is left out. -/
structure IsOverlay (base : Config) (environment : List (String × String)) (c : Config) : Prop where
  offloadAccount : c.offloadAccount =
    dropBlank ((lastValue? environment .offloadAccount).or base.offloadAccount)
  thresholdBytes : ∀ value, lastValue? environment .thresholdBytes = some value →
    WritesSize (trim value.toList) c.thresholdBytes.toNat
  thresholdBytes_kept : lastValue? environment .thresholdBytes = none →
    c.thresholdBytes = base.thresholdBytes
  offloadContainer : c.offloadContainer =
    (lastValue? environment .offloadContainer).getD base.offloadContainer
  endpointSuffix : c.endpointSuffix =
    (lastValue? environment .endpointSuffix).getD base.endpointSuffix
  channelNamespace : c.channelNamespace =
    dropBlank ((lastValue? environment .channelNamespace).or base.channelNamespace)
  identityClient : c.identityClient =
    dropBlank ((lastValue? environment .identityClient).or base.identityClient)

/-- How a configuration that was put together is concluded: it is refused for its container, else for
its suffix, and else it is the result. -/
inductive Concludes (c : Config) : Except Fault Config → Prop
  | withoutContainer (hempty : c.offloadContainer = "") :
    Concludes c (.error (.invalid .offloadContainer .empty))
  | withSlash (hslash : '/' ∈ c.offloadContainer.toList) :
    Concludes c (.error (.invalid .offloadContainer .hasSlash))
  | withoutSuffix (hcontainer : c.offloadContainer ≠ "" ∧ '/' ∉ c.offloadContainer.toList)
    (hempty : c.endpointSuffix = "") : Concludes c (.error (.invalid .endpointSuffix .empty))
  | accepted (hcontainer : c.offloadContainer ≠ "" ∧ '/' ∉ c.offloadContainer.toList)
    (hsuffix : c.endpointSuffix ≠ "") : Concludes c (.ok c)

/-- The check concludes a configuration. -/
lemma concludes_validated (c : Config) : c.Concludes c.validated := by
  unfold validated
  split
  · next hempty => exact .withoutContainer hempty
  · next hcontainer =>
    split
    · next hslash => exact .withSlash hslash
    · next hslash =>
      split
      · next hempty => exact .withoutSuffix ⟨hcontainer, hslash⟩ hempty
      · next hsuffix => exact .accepted ⟨hcontainer, hslash⟩ hsuffix

/-- No conclusion is about the threshold. -/
lemma Concludes.ne_threshold {outcome : Except Fault Config} (h : c.Concludes outcome)
    (reason : Reason) : outcome ≠ .error (.invalid .thresholdBytes reason) := by
  cases h <;> simp

/-- What is left when all pairs were put over a configuration is, normalized, their overlay. -/
lemma isOverlay_normalized (h : environment.foldlM applyOverride base = .ok d) :
    IsOverlay base environment d.normalized := by
  have heffect := effect_foldlM_applyOverride h
  have hoptional : ∀ (last old : Option String),
      ((last.map fun value => (dropBlank (some value), (0 : UInt64))).getD (dropBlank old, 0)).1 =
        dropBlank (last.or old) := by
    intro last old
    cases last <;> rfl
  have htext : ∀ (last : Option String) (old : String),
      ((last.map fun value => (some value, (0 : UInt64))).getD (some old, 0)).1 =
        some (last.getD old) := by
    intro last old
    cases last <;> rfl
  have hnumber := congrArg Prod.snd (heffect .thresholdBytes)
  constructor
  · exact (congrArg Prod.fst (heffect .offloadAccount)).trans (hoptional _ _)
  · intro value hlast
    rw [hlast] at hnumber
    -- no threshold is left that is no number
    have hread : ∃ n, readSize (trim value.toList) = .ok n := by
      have hnone := List.findSome?_eq_none_iff.mp (firstFault?_of_foldlM h) value
        (List.mem_of_getLast? hlast)
      unfold sizeFault? at hnone
      split at hnone
      · next n hn => exact ⟨n, hn⟩
      · cases hnone
    obtain ⟨n, hn⟩ := hread
    have hthreshold : d.thresholdBytes = n := by
      refine hnumber.trans ?_
      simp [givenEffect, hn, Except.toOption]
    change WritesSize _ d.thresholdBytes.toNat
    rw [hthreshold]
    exact readSize_eq_ok_iff.mp hn
  · intro hlast
    rw [hlast] at hnumber
    exact hnumber
  · exact Option.some.inj ((congrArg Prod.fst (heffect .offloadContainer)).trans (htext _ _))
  · exact Option.some.inj ((congrArg Prod.fst (heffect .endpointSuffix)).trans (htext _ _))
  · exact (congrArg Prod.fst (heffect .channelNamespace)).trans (hoptional _ _)
  · exact (congrArg Prod.fst (heffect .identityClient)).trans (hoptional _ _)

/-- Putting pairs over a configuration fails for the threshold exactly if some value that is given to
it is no number of a 64-bit word. -/
lemma withOverrides_eq_threshold_iff :
    (∃ reason, base.withOverrides environment = .error (.invalid .thresholdBytes reason)) ↔
      ∃ value, (Key.fullName .thresholdBytes, value) ∈ environment ∧
        ¬ IsSize (trim value.toList) := by
  rw [← isSome_firstFault?_iff]
  cases hfold : environment.foldlM applyOverride base with
  | error fault =>
    obtain ⟨cause, hcause, rfl⟩ :=
      Option.map_eq_some_iff.mp (foldlM_applyOverride_eq_error_iff.mp hfold)
    refine iff_of_true ⟨.notNumber cause, ?_⟩ (Option.isSome_of_mem hcause)
    unfold withOverrides
    rw [hfold]
    rfl
  | ok d =>
    refine iff_of_false ?_ ?_
    · rintro ⟨reason, hfault⟩
      rw [withOverrides_of_foldlM hfold] at hfault
      exact (concludes_validated d.normalized).ne_threshold reason hfault
    · rw [firstFault?_of_foldlM hfold]
      exact Bool.false_ne_true

/-- When all thresholds are numbers, putting pairs over a configuration concludes their overlay. -/
lemma exists_concludes (hsizes : ∀ value, (Key.fullName .thresholdBytes, value) ∈ environment →
    IsSize (trim value.toList)) :
    ∃ c, IsOverlay base environment c ∧ c.Concludes (base.withOverrides environment) := by
  cases hfold : environment.foldlM applyOverride base with
  | error fault =>
    obtain ⟨cause, hcause, -⟩ :=
      Option.map_eq_some_iff.mp (foldlM_applyOverride_eq_error_iff.mp hfold)
    obtain ⟨value, hmem, hnot⟩ := isSome_firstFault?_iff.mp (Option.isSome_of_mem hcause)
    exact absurd (hsizes value hmem) hnot
  | ok d =>
    refine ⟨d.normalized, isOverlay_normalized hfold, ?_⟩
    rw [withOverrides_of_foldlM hfold]
    exact concludes_validated _

/-! ## Order -/

/-- Pairs of the same name are the same in both lists, and in the same order. -/
def SameByName (environment environment' : List (String × String)) : Prop :=
  ∀ name, environment'.filter (fun entry => entry.1 = name) =
    environment.filter fun entry => entry.1 = name

/-- Two pairs of different names may change places. -/
lemma sameByName_swap {first second : String × String} (hne : first.1 ≠ second.1) :
    SameByName (environment ++ first :: second :: environment')
      (environment ++ second :: first :: environment') := by
  intro name
  by_cases hfirst : first.1 = name
  · have hsecond : second.1 ≠ name := fun heq => hne (hfirst.trans heq.symm)
    simp [hfirst, hsecond]
  · simp [List.filter_cons, hfirst]

/-- Pairs that are the same name by name have the same result. -/
lemma SameByName.withOverrides_eq (h : SameByName environment environment') :
    base.withOverrides environment' = base.withOverrides environment := by
  have hvalues : ∀ key, valuesOf environment' key = valuesOf environment key := fun key =>
    congrArg (List.map Prod.snd) (h key.fullName)
  refine withOverrides_congr ?_ (fun key => ?_) fun key => rfl
  · unfold firstFault?
    rw [hvalues]
  · unfold lastValue?
    rw [hvalues]

/-- **Putting variables over a configuration.**  It fails for the threshold exactly if some value
that is given to it is no number of a 64-bit word; otherwise it concludes the overlay.  Pairs of
different names may come in any order, and more pairs put over the result are the same as all of
them put over the configuration. -/
theorem withOverrides_overlays (base : Config) (environment : List (String × String)) :
    ((∃ reason, base.withOverrides environment = .error (.invalid .thresholdBytes reason)) ↔
      ∃ value, (Key.fullName .thresholdBytes, value) ∈ environment ∧
        ¬ IsSize (trim value.toList)) ∧
    ((∀ value, (Key.fullName .thresholdBytes, value) ∈ environment →
        IsSize (trim value.toList)) →
      ∃ c, IsOverlay base environment c ∧ c.Concludes (base.withOverrides environment)) ∧
    (∀ environment', SameByName environment environment' →
      base.withOverrides environment' = base.withOverrides environment) ∧
    ∀ c, base.withOverrides environment = .ok c → ∀ more,
      c.withOverrides more = base.withOverrides (environment ++ more) := by
  refine ⟨withOverrides_eq_threshold_iff, exists_concludes, ?_, ?_⟩
  · intro environment' hsame
    exact hsame.withOverrides_eq
  · intro c hresult more
    exact withOverrides_append hresult more

/-- A threshold that is no number is not made good by one that comes later, and numbers and names may
come in any order: here the blank account turns offloading off, wherever the number stands. -/
theorem withOverrides_overlays_thresholds :
    (∃ reason, ({} : Config).withOverrides
        [("COURIER_OFFLOAD_THRESHOLD_BYTES", "lots"), ("COURIER_OFFLOAD_THRESHOLD_BYTES", "7")] =
      .error (.invalid .thresholdBytes reason)) ∧
    (∃ c : Config, c.thresholdBytes = 7 ∧ c.offloadAccount = none ∧
      ({ offloadAccount := some "bodies" } : Config).withOverrides
        [("COURIER_OFFLOAD_THRESHOLD_BYTES", " +7 "), ("COURIER_OFFLOAD_STORAGE_ACCOUNT_NAME", " ")] =
          .ok c ∧
      ({ offloadAccount := some "bodies" } : Config).withOverrides
        [("COURIER_OFFLOAD_STORAGE_ACCOUNT_NAME", " "), ("COURIER_OFFLOAD_THRESHOLD_BYTES", " +7 ")] =
          .ok c) := by
  refine ⟨?_, ⟨{ thresholdBytes := 7 }, rfl, rfl, by decide, ?_⟩⟩
  · refine (withOverrides_overlays _ _).1.mpr ⟨"lots", by decide, ?_⟩
    exact isSome_sizeFault?_iff.mp (by decide)
  · have hsame : SameByName
        ([] ++ ("COURIER_OFFLOAD_THRESHOLD_BYTES", " +7 ") ::
          ("COURIER_OFFLOAD_STORAGE_ACCOUNT_NAME", " ") :: [])
        ([] ++ ("COURIER_OFFLOAD_STORAGE_ACCOUNT_NAME", " ") ::
          ("COURIER_OFFLOAD_THRESHOLD_BYTES", " +7 ") :: []) := sameByName_swap (by decide)
    have hswap := (withOverrides_overlays { offloadAccount := some "bodies" } _).2.2.1 _ hsame
    exact hswap.trans (by decide)

end ClaimCheck.Config
