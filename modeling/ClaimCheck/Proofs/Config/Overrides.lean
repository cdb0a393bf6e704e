import Mathlib
import ClaimCheck.Config.Overrides

/-!
# Settings that were replaced

Variables that were put over a configuration once change nothing when they are put over the result
again (`Config.withOverrides_again`).  What counts of a setting is its effect (`Config.effect`), which
is none when an optional text is blank.  A variable replaces the effect of its own setting, whatever
it was before, and leaves all others (`Config.effect_applyOverride`), so settings that variables name
have the effect of the last one of these, and the rest are as they were (`Config.foldlM_applyOverride`).
-/

namespace ClaimCheck.Config

/-! ## Configurations that took effect -/

/-- A blank text is dropped once. -/
lemma dropBlank_dropBlank (value : Option String) : dropBlank (dropBlank value) = dropBlank value := by
  unfold dropBlank
  rw [Option.filter_filter]
  simp

/-- What was normalized stays as it is. -/
lemma normalized_normalized (c : Config) : c.normalized.normalized = c.normalized := by
  unfold normalized
  simp only [dropBlank_dropBlank]

/-- The check changes nothing. -/
lemma eq_of_validated {c d : Config} (h : c.validated = .ok d) : d = c := by
  unfold validated at h
  split at h
  · cases h
  split at h
  · cases h
  split at h
  · cases h
  · cases h
    rfl

/-- What was checked passes the check unchanged. -/
lemma checked_of_checked {base c : Config} (h : base.checked = .ok c) : c.checked = .ok c := by
  have heq : c = base.normalized := eq_of_validated h
  unfold checked at h ⊢
  rw [heq, normalized_normalized]
  rw [heq] at h
  exact h

/-! ## Effects -/

/-- The effect of a setting: its text, if it has one that is not left out, or its number. -/
def effect (c : Config) : Key → Option String × UInt64
  | .offloadAccount => (dropBlank c.offloadAccount, 0)
  | .thresholdBytes => (none, c.thresholdBytes)
  | .offloadContainer => (some c.offloadContainer, 0)
  | .endpointSuffix => (some c.endpointSuffix, 0)
  | .channelNamespace => (dropBlank c.channelNamespace, 0)
  | .identityClient => (dropBlank c.identityClient, 0)

variable {base c d : Config} {key other : Key}

/-- Configurations with the same effects are normalized alike. -/
lemma normalized_eq_of_effect (h : ∀ key, d.effect key = c.effect key) :
    d.normalized = c.normalized := by
  have haccount := congrArg Prod.fst (h .offloadAccount)
  have hthreshold := congrArg Prod.snd (h .thresholdBytes)
  have hcontainer := Option.some.inj (congrArg Prod.fst (h .offloadContainer))
  have hsuffix := Option.some.inj (congrArg Prod.fst (h .endpointSuffix))
  have hnamespace := congrArg Prod.fst (h .channelNamespace)
  have hclient := congrArg Prod.fst (h .identityClient)
  exact Config.ext haccount hthreshold hcontainer hsuffix hnamespace hclient

/-- Normalizing a configuration changes no effect. -/
lemma effect_normalized (c : Config) (key : Key) : c.normalized.effect key = c.effect key := by
  cases key <;> simp [effect, normalized, dropBlank_dropBlank]

/-- Whether a setting can be replaced does not depend on the others, and neither does its effect
then; the others keep theirs. -/
lemma effect_replace {value : String} (h : c.replace key value = .ok d) (e : Config) :
    (∀ other ≠ key, d.effect other = c.effect other) ∧
      ∃ f, e.replace key value = .ok f ∧ f.effect key = d.effect key := by
  cases key with
  | thresholdBytes =>
    unfold replace at h ⊢
    dsimp only at h ⊢
    cases hsize : readSize (Text.trim value.toList) with
    | error fault =>
      rw [hsize] at h
      cases h
    | ok n =>
      rw [hsize] at h
      cases h
      refine ⟨fun other hother => ?_, _, rfl, rfl⟩
      cases other <;> first | rfl | exact absurd rfl hother
  | _ =>
    cases h
    refine ⟨fun other hother => ?_, _, rfl, rfl⟩
    cases other <;> first | rfl | exact absurd rfl hother

/-- A variable that can be put over one configuration can be put over any, with the same effect on the
setting that it names, if it names one, and none on the others. -/
lemma effect_applyOverride {entry : String × String} (h : c.applyOverride entry = .ok d)
    (e : Config) :
    ∃ f, e.applyOverride entry = .ok f ∧ ∀ key,
      (Key.ofVariable? entry.1 = some key → f.effect key = d.effect key) ∧
        (Key.ofVariable? entry.1 ≠ some key →
          d.effect key = c.effect key ∧ f.effect key = e.effect key) := by
  unfold applyOverride at h ⊢
  cases hkey : Key.ofVariable? entry.1 with
  | none =>
    rw [hkey] at h
    cases h
    refine ⟨e, rfl, fun key => ⟨fun hsome => ?_, fun _ => ⟨rfl, rfl⟩⟩⟩
    cases hsome
  | some named =>
    rw [hkey] at h
    dsimp only at h ⊢
    obtain ⟨hothers, f, hf, hsame⟩ := effect_replace h e
    obtain ⟨hothers', -⟩ := effect_replace hf e
    refine ⟨f, hf, fun key => ⟨fun hsome => ?_, fun hne => ?_⟩⟩
    · cases hsome
      exact hsame
    · have hapart : key ≠ named := fun heq => hne (congrArg some heq.symm)
      exact ⟨hothers key hapart, hothers' key hapart⟩

/-! ## All variables -/

/-- A variable of an environment names a setting. -/
def Names (environment : List (String × String)) (key : Key) : Prop :=
  ∃ entry ∈ environment, Key.ofVariable? entry.1 = some key

/-- Variables that can be put over one configuration can be put over any: the settings that they name
have the same effect then, and the others the one that they had. -/
lemma foldlM_applyOverride {environment : List (String × String)}
    (h : environment.foldlM applyOverride c = .ok d) (e : Config) :
    ∃ f, environment.foldlM applyOverride e = .ok f ∧ ∀ key,
      (Names environment key → f.effect key = d.effect key) ∧
        (¬ Names environment key → d.effect key = c.effect key ∧ f.effect key = e.effect key) := by
  induction environment generalizing c e with
  | nil =>
    cases h
    refine ⟨e, rfl, fun key => ⟨?_, fun _ => ⟨rfl, rfl⟩⟩⟩
    rintro ⟨entry, hentry, -⟩
    cases hentry
  | cons entry environment ih =>
    rw [List.foldlM_cons] at h
    cases happly : c.applyOverride entry with
    | error fault =>
      rw [happly] at h
      cases h
    | ok c₁ =>
      rw [happly] at h
      obtain ⟨e₁, he₁, hfirst⟩ := effect_applyOverride happly e
      obtain ⟨f, hf, hrest⟩ := ih h e₁
      refine ⟨f, by rw [List.foldlM_cons, he₁]; exact hf, fun key => ⟨fun hnames => ?_, fun hnone => ?_⟩⟩
      · by_cases hlater : Names environment key
        · exact (hrest key).1 hlater
        · -- the first variable is the last one that names the setting
          have hentry : Key.ofVariable? entry.1 = some key := by
            obtain ⟨other, hother, hkey⟩ := hnames
            rcases List.mem_cons.mp hother with rfl | hother
            · exact hkey
            · exact absurd ⟨other, hother, hkey⟩ hlater
          obtain ⟨hd, hkept⟩ := (hrest key).2 hlater
          rw [hkept, hd, (hfirst key).1 hentry]
      · have hentry : Key.ofVariable? entry.1 ≠ some key :=
          fun hkey => hnone ⟨entry, List.mem_cons_self, hkey⟩
        have hlater : ¬ Names environment key := by
          rintro ⟨other, hother, hkey⟩
          exact hnone ⟨other, List.mem_cons_of_mem _ hother, hkey⟩
        obtain ⟨hd, hf⟩ := (hrest key).2 hlater
        obtain ⟨hd₁, hf₁⟩ := (hfirst key).2 hentry
        exact ⟨hd.trans hd₁, hf.trans hf₁⟩

/-- Variables that were put over a configuration change nothing when they are put over the result. -/
theorem withOverrides_again {environment : List (String × String)}
    (h : base.withOverrides environment = .ok c) : c.withOverrides environment = .ok c := by
  unfold withOverrides at h ⊢
  cases hfold : environment.foldlM applyOverride base with
  | error fault =>
    rw [hfold] at h
    cases h
  | ok d =>
    rw [hfold] at h
    replace h : d.checked = .ok c := h
    obtain ⟨f, hf, heffect⟩ := foldlM_applyOverride hfold c
    have hc : c = d.normalized := eq_of_validated h
    have hnormalized : f.normalized = d.normalized := by
      refine normalized_eq_of_effect fun key => ?_
      by_cases hnames : Names environment key
      · exact (heffect key).1 hnames
      · obtain ⟨hd, hkept⟩ := (heffect key).2 hnames
        rw [hkept, hc, effect_normalized]
    rw [hf]
    change f.checked = .ok c
    unfold checked at h ⊢
    rw [hnormalized]
    exact h

end ClaimCheck.Config
