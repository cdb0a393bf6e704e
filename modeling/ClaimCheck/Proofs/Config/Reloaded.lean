import Mathlib
import ClaimCheck.Proofs.Cli.Work
import ClaimCheck.Proofs.Config.Overrides
import ClaimCheck.Proofs.Toml.Settings
import ClaimCheck.Proofs.World.Happening

/-!
# A configuration that was shown loads back

The document of a configuration has a line for every setting but optional ones that are left out
(`Config.settings`), so what is read of it has exactly these settings (`Config.lookup_settings`), and
the configuration that is made of them is the one that was written (`Config.ofItems?_settings`).  A
configuration that was accepted passes the check unchanged, so it loads back, and the variables that
were put over it may be put over it again (`Config.withOverrides_again`).

A threshold above all signed words has no document.
-/

namespace ClaimCheck.Config

open Toml

/-! ## Settings -/

/-- The setting with a text. -/
def textSettingOf (key : Key) (value : String) : Setting :=
  ⟨key.label, stringChars value.toList, .text value⟩

/-- What is written of a configuration under a key, if anything is. -/
def setting? (c : Config) : Key → Option Setting
  | .offloadAccount => c.offloadAccount.map (textSettingOf .offloadAccount)
  | .thresholdBytes =>
    some ⟨Key.thresholdBytes.label, Text.decimal c.thresholdBytes.toNat,
      .integer c.thresholdBytes.toNat⟩
  | .offloadContainer => some (textSettingOf .offloadContainer c.offloadContainer)
  | .endpointSuffix => some (textSettingOf .endpointSuffix c.endpointSuffix)
  | .channelNamespace => c.channelNamespace.map (textSettingOf .channelNamespace)
  | .identityClient => c.identityClient.map (textSettingOf .identityClient)

/-- All that is written of a configuration. -/
def settings (c : Config) : List Setting := Key.all.filterMap c.setting?

/-- Every key can stand without quotes. -/
lemma isKeyChar_label (key : Key) :
    key.label.toList ≠ [] ∧ ∀ c ∈ key.label.toList, isKeyChar c = true := by
  cases key <;> exact ⟨by decide, List.all_eq_true.mp rfl⟩

/-- Keys have different labels. -/
lemma label_injective : Function.Injective Key.label := by
  intro key other h
  cases key <;> cases other <;> first | rfl | exact absurd h (by decide)

variable {c : Config}

/-- What is written under a key has its label. -/
lemma key_of_setting? {key : Key} {s : Setting} (h : c.setting? key = some s) : s.key = key.label := by
  cases key with
  | thresholdBytes | offloadContainer | endpointSuffix =>
    cases h
    rfl
  | _ =>
    obtain ⟨value, -, rfl⟩ := Option.map_eq_some_iff.mp h
    rfl

/-- Every setting of a configuration reads back when its threshold fits in a signed word. -/
lemma isWritten_of_mem_settings (h : c.thresholdBytes.toNat < 0x8000000000000000) {s : Setting}
    (hs : s ∈ c.settings) : s.IsWritten := by
  obtain ⟨key, -, hkey⟩ := List.mem_filterMap.mp hs
  have htext : ∀ key value, (textSettingOf key value).IsWritten := fun key value =>
    isWritten_text (isKeyChar_label key).1 (isKeyChar_label key).2 value
  cases key with
  | thresholdBytes =>
    cases hkey
    exact isWritten_number (isKeyChar_label _).1 (isKeyChar_label _).2 h
  | offloadContainer | endpointSuffix =>
    cases hkey
    exact htext _ _
  | _ =>
    obtain ⟨value, -, rfl⟩ := Option.map_eq_some_iff.mp hkey
    exact htext _ _

/-- No two settings have the same key. -/
lemma nodup_settings (c : Config) : (c.settings.map Setting.key).Nodup := by
  have hall : Key.all.Nodup := by decide
  unfold settings
  rw [List.map_filterMap]
  refine hall.filterMap fun key other label hkey hother => ?_
  obtain ⟨s, hs, rfl⟩ := Option.map_eq_some_iff.mp hkey
  obtain ⟨t, ht, heq⟩ := Option.map_eq_some_iff.mp hother
  rw [key_of_setting? hs, key_of_setting? ht] at heq
  exact (label_injective heq).symm

/-- The document of a configuration is made of its settings. -/
lemma document?_eq (h : c.thresholdBytes.toNat < 0x8000000000000000) :
    c.document? = some (String.ofList (c.settings.flatMap Setting.line)) := by
  have hoptional : ∀ key (value : Option String),
      optionalLine key value = (value.map (textSettingOf key)).toList.flatMap Setting.line := by
    intro key value
    cases value with
    | none => rfl
    | some text => exact (List.append_nil _).symm
  unfold document?
  rw [if_pos h]
  congr 2
  rw [hoptional, hoptional, hoptional]
  unfold settings Key.all
  simp only [List.filterMap_cons, List.filterMap_nil, setting?]
  cases c.offloadAccount <;> cases c.channelNamespace <;> cases c.identityClient <;>
    simp [Setting.line, textSettingOf, textLine]

/-! ## What is read -/

/-- What stands under a key is what was written under it. -/
lemma lookup_settings (c : Config) (key : Key) :
    (c.settings.map Setting.entry).lookup key.label =
      (c.setting? key).map fun s => .value s.value := by
  have hlookup : ∀ keys : List Key, ((keys.filterMap c.setting?).map Setting.entry).lookup key.label =
      if key ∈ keys then (c.setting? key).map fun s => .value s.value else none := by
    intro keys
    induction keys with
    | nil => rfl
    | cons other keys ih =>
      rw [List.filterMap_cons]
      cases hother : c.setting? other with
      | none =>
        rw [ih]
        rcases eq_or_ne key other with rfl | hne
        · simp [hother]
        · simp [hne]
      | some s =>
        have hlabel := key_of_setting? hother
        rcases eq_or_ne key other with rfl | hne
        · simp [Setting.entry, hlabel, hother]
        · have hapart : key.label ≠ other.label := fun heq => hne (label_injective heq)
          have hbeq : (key.label == other.label) = false := beq_eq_false_iff_ne.mpr hapart
          simp [Setting.entry, List.lookup_cons, hlabel, hbeq, hne, ih]
  have hall : key ∈ Key.all := by cases key <;> decide
  unfold settings
  rw [hlookup, if_pos hall]

/-- The configuration that is made of settings is the one that they were written for. -/
lemma ofItems?_settings (c : Config) : ofItems? (c.settings.map Setting.entry) = some c := by
  have hoptional : ∀ key (value : Option String), c.setting? key = value.map (textSettingOf key) →
      optionalSetting (c.settings.map Setting.entry) key = some value := by
    intro key value h
    unfold optionalSetting
    rw [lookup_settings, h]
    cases value <;> rfl
  have htext : ∀ key value fallback, c.setting? key = some (textSettingOf key value) →
      textSetting (c.settings.map Setting.entry) key fallback = some value := by
    intro key value fallback h
    unfold textSetting
    rw [lookup_settings, h]
    rfl
  have hsize : ∀ fallback, sizeSetting (c.settings.map Setting.entry) .thresholdBytes fallback =
      some c.thresholdBytes := by
    intro fallback
    unfold sizeSetting
    rw [lookup_settings]
    simp [setting?]
  unfold ofItems?
  dsimp only
  rw [hoptional .offloadAccount c.offloadAccount rfl, hsize,
    htext .offloadContainer c.offloadContainer _ rfl, htext .endpointSuffix c.endpointSuffix _ rfl,
    hoptional .channelNamespace c.channelNamespace rfl, hoptional .identityClient c.identityClient rfl]
  rfl

/-- The document of a configuration that was checked loads back. -/
lemma ofDocument_settings (hchecked : c.checked = .ok c)
    (h : c.thresholdBytes.toNat < 0x8000000000000000) :
    ofDocument (String.ofList (c.settings.flatMap Setting.line)) = .ok c := by
  unfold ofDocument
  rw [parse?_settings (fun s => isWritten_of_mem_settings h) c.nodup_settings, Option.bind_some,
    ofItems?_settings]
  exact hchecked

/-! ## What a command shows -/

open Cli

/-- A command that loads a configuration and shows it. -/
def Shows (h : Host) (arguments : List String) (environment : List (String × String))
    (c : Config) : Prop :=
  ∃ command, Command.ofArguments arguments = .ok command ∧ command.task = .config ∧
    (h.run (loadConfig command.configFile environment).run).1 = .ok c

/-- A configuration that is shown was accepted. -/
lemma Shows.accepted {h : Host} {arguments : List String} {environment : List (String × String)}
    (hshows : Shows h arguments environment c) :
    ∃ base : Config, base.withOverrides environment = .ok c := by
  obtain ⟨command, -, -, hloaded⟩ := hshows
  obtain ⟨base, -, hoverrides⟩ := Host.run_loadConfig_eq_ok_iff.mp hloaded
  exact ⟨base, hoverrides⟩

/-- A command that shows a configuration ends with its document, or it fails and prints nothing but
its report if there is none. -/
lemma Shows.run {h : Host} {arguments : List String} {environment : List (String × String)}
    (hshows : Shows h arguments environment c) :
    (h.run (Cli.run arguments environment)).1 =
      match c.document? with
      | some document => ⟨0, ⟨document, offloadingLine (Ink.isAskedBy environment) c.threshold⟩⟩
      | none => ⟨1, { err := Failure.report { message := "out-of-range value for u64 type" } }⟩ := by
  obtain ⟨command, harguments, htask, hloaded⟩ := hshows
  have hbegins : Begins h arguments environment
      ⟨c, Disk.Path.ofText command.storeRoot, Ink.isAskedBy environment⟩ .config :=
    ⟨command, harguments, htask, hloaded, rfl, rfl⟩
  rw [hbegins.run]
  unfold Setup.perform Setup.showConfig
  dsimp only
  cases c.document? <;> rfl

/-- A document that is printed of a configuration loads back as that configuration, also when the
variables that were put over it are put over it again. -/
structure LoadsBack (c : Config) (overrides : List (String × String)) (document : String) :
    Prop where
  written : c.document? = some document
  printed : ∀ h arguments environment, Shows h arguments environment c →
    (h.run (Cli.run arguments environment)).1 =
      ⟨0, ⟨document, offloadingLine (Ink.isAskedBy environment) c.threshold⟩⟩
  loaded : ofDocument document = .ok c
  again : (ofDocument document).bind (withOverrides · overrides) = .ok c

/-- A configuration that has no document lets every command that shows it fail, and nothing is
printed. -/
structure IsNotShown (c : Config) : Prop where
  unwritten : c.document? = none
  fails : ∀ h arguments environment, Shows h arguments environment c →
    (h.run (Cli.run arguments environment)).1.code = 1 ∧
      (h.run (Cli.run arguments environment)).1.printed.out = ""

/-- A configuration that was accepted is shown as a document that loads back, unless its threshold fits
in no signed word. -/
theorem shown_config_loads_back {base c : Config} {overrides : List (String × String)}
    (haccepted : base.withOverrides overrides = .ok c) :
    (c.thresholdBytes.toNat < 2 ^ 63 → ∃ document, LoadsBack c overrides document) ∧
      (2 ^ 63 ≤ c.thresholdBytes.toNat → IsNotShown c) := by
  have hchecked : c.checked = .ok c := by
    unfold withOverrides at haccepted
    cases hfold : overrides.foldlM applyOverride base with
    | error fault =>
      rw [hfold] at haccepted
      cases haccepted
    | ok d =>
      rw [hfold] at haccepted
      replace haccepted : d.checked = .ok c := haccepted
      exact checked_of_checked haccepted
  refine ⟨fun hsmall => ?_, fun hlarge => ?_⟩
  · have hwritten := document?_eq hsmall
    have hloaded := ofDocument_settings hchecked hsmall
    refine ⟨_, hwritten, fun h arguments environment hshows => ?_, hloaded, ?_⟩
    · rw [hshows.run, hwritten]
    · rw [hloaded]
      exact withOverrides_again haccepted
  · have hnone : c.document? = none := by
      unfold document?
      exact if_neg (Nat.not_lt.mpr hlarge)
    refine ⟨hnone, fun h arguments environment hshows => ?_⟩
    rw [hshows.run, hnone]
    exact ⟨rfl, rfl⟩

/-- Variables with texts that need every form of string. -/
def awkwardVariables : List (String × String) :=
  [("COURIER_OFFLOAD_STORAGE_ACCOUNT_NAME", "  "), ("COURIER_OFFLOAD_THRESHOLD_BYTES", " 12 "),
    ("COURIER_OFFLOAD_CONTAINER", "a\"b\\c\nd'''"), ("COURIER_STORAGE_ENDPOINT_SUFFIX", "\x01\x7f"),
    ("COURIER_CHANNEL_NAMESPACE", "a\"b")]

/-- The configuration that they make of the defaults. -/
def awkwardConfig : Config where
  thresholdBytes := 12
  offloadContainer := "a\"b\\c\nd'''"
  endpointSuffix := "\x01\x7f"
  channelNamespace := some "a\"b"

/-- A host with an empty disk. -/
def emptyHost : Host := ⟨{}, ByteArray.empty, World.repeating⟩

/-- A threshold that fits in no signed word. -/
def largeVariables : List (String × String) :=
  [("COURIER_OFFLOAD_THRESHOLD_BYTES", "9223372036854775808")]

/-- The configuration with the large threshold. -/
def largeConfig : Config := { thresholdBytes := 9223372036854775808 }

/-- A command without a file prints the awkward texts as a document that loads back, and nothing of
the large threshold. -/
theorem awkward_config_loads_back :
    ofDocument (emptyHost.run (Cli.run ["config"] awkwardVariables)).1.printed.out =
        .ok awkwardConfig ∧
      awkwardConfig.withOverrides awkwardVariables = .ok awkwardConfig ∧
      (emptyHost.run (Cli.run ["config"] largeVariables)).1.code = 1 ∧
      (emptyHost.run (Cli.run ["config"] largeVariables)).1.printed.out = "" := by
  have hawkward : Shows emptyHost ["config"] awkwardVariables awkwardConfig :=
    ⟨{ task := .config }, rfl, rfl, rfl⟩
  have hlarge : Shows emptyHost ["config"] largeVariables largeConfig :=
    ⟨{ task := .config }, rfl, rfl, rfl⟩
  obtain ⟨base, hbase⟩ := hawkward.accepted
  obtain ⟨document, hback⟩ := (shown_config_loads_back hbase).1 (by decide +kernel)
  obtain ⟨base', hbase'⟩ := hlarge.accepted
  have hnotShown := (shown_config_loads_back hbase').2 (by decide +kernel)
  refine ⟨?_, ?_, hnotShown.fails _ _ _ hlarge⟩
  · rw [hback.printed _ _ _ hawkward]
    exact hback.loaded
  · have hagain := hback.again
    rw [hback.loaded] at hagain
    exact hagain

end ClaimCheck.Config
