import Mathlib
import ClaimCheck.Proofs.Cli.OnDisk
import ClaimCheck.Proofs.Json.Trailing

/-!
# Bodies through a pipe

A command that encodes a file prints the body with a line end, and a command that decodes its standard
input drops one line end first.  This gives back the body unless it ends in a carriage return, which is
taken for a part of the line end (`dropLineEnd_append`).  An envelope ends in a brace, so only a text
that stays inline can lose a carriage return (`throughPipe`); without it, the text is still not taken
for an envelope, since space behind a document says nothing.

The second command finds the disk as the first one left it.  Nothing that was there has changed, so it
loads the same configuration from the same file, and the blob is where the envelope says.
-/

namespace ClaimCheck.Cli

/-! ## Line ends -/

/-- A text without a carriage return at its end. -/
def dropReturn (text : String) : String :=
  if text.toList.getLast? = some '\r' then String.ofList text.toList.dropLast else text

/-- A line end behind a text takes a carriage return before it along. -/
lemma dropLineEnd_append (text : String) : dropLineEnd (text ++ "\n") = dropReturn text := by
  have hreverse : (text ++ "\n").toList.reverse = '\n' :: text.toList.reverse := by
    rw [String.toList_append, List.reverse_append]
    rfl
  unfold dropLineEnd dropReturn
  rw [hreverse]
  split
  · next rest heq =>
    rw [List.cons.injEq, List.reverse_eq_cons_iff] at heq
    rw [heq.2, List.getLast?_concat, if_pos rfl, List.dropLast_concat]
  · next rest hreturn heq =>
    rw [List.cons.injEq] at heq
    rw [← heq.2, List.reverse_reverse, String.ofList_toList, if_neg]
    intro hlast
    obtain ⟨front, hfront⟩ := List.getLast?_eq_some_iff.mp hlast
    refine hreturn front.reverse ?_
    rw [← heq.2, hfront, List.reverse_concat]
  · next hother => exact absurd rfl (hother _)

/-- An envelope ends in a brace. -/
lemma dropReturn_envelope (place : Locator) :
    dropReturn (EncodedBody.claimCheck place).text = (EncodedBody.claimCheck place).text := by
  have hchars : (EncodedBody.claimCheck place).text.toList =
      ('\x7b' :: (Json.stringChars claimCheckLabel ++ ':' :: Json.stringChars place.path)) ++
        ['\x7d'] := by
    unfold EncodedBody.text EncodedBody.envelope Json.Value.compact
    rw [String.toList_ofList]
    simp [Json.compactChars, Json.compactMembers, Json.compactMoreMembers]
  unfold dropReturn
  rw [hchars, List.getLast?_concat, if_neg (by decide)]

/-! ## Envelopes -/

/-- A text is read as an object with a claim check. -/
def ReadsClaimCheck (text : String) : Prop :=
  ∃ value, Json.Value.parse text = .ok value ∧ (value.member? claimCheckLabel).isSome

/-- A text that is not read as an object with a claim check is a plain body. -/
lemma isPlain_of_not_readsClaimCheck {text : String} (h : ¬ReadsClaimCheck text) :
    ReceivedBody.isPlain (ReceivedBody.ofText text) = true := by
  unfold ReceivedBody.ofText
  cases hparse : Json.Value.parse text with
  | error fault => rfl
  | ok value =>
    dsimp only
    rw [ReceivedBody.isPlain_ofValue, Bool.not_eq_true']
    exact Bool.eq_false_iff.mpr fun hmember => h ⟨value, hparse, hmember⟩

/-- No text is taken for an envelope for want of a carriage return at its end. -/
lemma not_readsClaimCheck_dropReturn {text : String} (h : ¬ReadsClaimCheck text) :
    ¬ReadsClaimCheck (dropReturn text) := by
  unfold dropReturn
  split
  · next hlast =>
    rintro ⟨value, hparse, hmember⟩
    obtain ⟨front, hfront⟩ := List.getLast?_eq_some_iff.mp hlast
    have htext : String.ofList text.toList.dropLast ++ String.singleton '\r' = text := by
      rw [← String.toList_inj, String.toList_append, String.toList_ofList, String.toList_singleton,
        hfront, List.dropLast_concat]
    have hwhole := Json.Value.parse_concat_space (show Json.isSpace '\r' = true by decide) hparse
    rw [htext] at hwhole
    exact h ⟨value, hwhole, hmember⟩
  · exact h

/-! ## Decoding what was encoded -/

/-- What a text comes back as: one that stays inline without a carriage return at its end, and any
other as it is. -/
def throughPipe (c : Config) (text : String) : String :=
  if c.threshold.exceededBy text.utf8ByteSize then text else dropReturn text

section Pipe

variable {h h' h'' : Host} {s : Setup} {root : Disk.Path} {path text : String} {printed : Printed}

/-- A body of a text that was encoded is decoded, its line end dropped, on any host that has the disk
which encoding left. -/
lemma run_decode_of_encodeText {c : Config} {encoded : EncodedBody} (hc : c.IsAccepted)
    (hclaim : ¬ReadsClaimCheck text)
    (hrun : h.run (Console.relay root ((Codec.ofConfig c).encodeText text).run) = (.ok encoded, h'))
    (hdisk : h''.disk = h'.disk) (hservices : h.services.Opens → h''.services.Opens) :
    ∃ last, h''.run (Console.relay root
      ((Codec.ofConfig c).decode (dropLineEnd (encoded.text ++ "\n"))).run) =
        (.ok (throughPipe c text), last) := by
  have hthrough : ∀ exceeds, (Codec.ofConfig c).threshold.exceededBy text.utf8ByteSize = exceeds →
      throughPipe c text = if exceeds then text else dropReturn text := by
    rintro exceeds rfl
    rfl
  rw [dropLineEnd_append]
  rcases Host.run_encodeText_eq_ok_iff.mp hrun with
    ⟨hinline, rfl, -⟩ | ⟨hexceeds, place, rfl, hoffload⟩
  · -- the body is the text itself, and what is left of it is no envelope either
    have hplain := isPlain_of_not_readsClaimCheck (not_readsClaimCheck_dropReturn hclaim)
    refine ⟨h'', ?_⟩
    change h''.run (Console.relay root ((Codec.ofConfig c).decode (dropReturn text)).run) = _
    rw [hthrough _ hinline, Host.run_relay, Codec.run_decode_of_isPlain hplain]
    rfl
  · -- the body is an envelope, and its blob is still there
    obtain ⟨endpoint, hendpoint, hopens, ⟨id, rfl⟩, hput⟩ := Host.exists_of_run_offload hoffload
    obtain ⟨hempty, hslash⟩ := hc.offloadContainer
    have hget := (Disk.fills_of_put_ok hput).2
    rw [← hdisk] at hget
    obtain ⟨last, hfetch⟩ := Host.run_fetch hendpoint ⟨hservices hopens.1, hopens.2⟩ hget
    rw [hthrough _ hexceeds, dropReturn_envelope]
    exact ⟨last, Host.run_decode_envelope
      (Locator.ofPath_path hempty hslash (Codec.name_freshPlace_ne _ id)) hfetch⟩

/-- A file that is encoded is encoded by the codec and printed with a line end. -/
lemma exists_of_encode (hfile : h.disk.read (Disk.Path.ofFileText path) = .ok text.toUTF8)
    (hrun : h.run (s.encode (some path)).run = (.ok printed, h')) :
    ∃ encoded, printed.out = encoded.text ++ "\n" ∧
      h.run (Console.relay s.root ((Codec.ofConfig s.config).encodeText text).run) =
        (.ok encoded, h') := by
  unfold Setup.encode at hrun
  obtain ⟨input, h₁, hinput, hrun⟩ := Host.run_work_bind_eq_ok_iff.mp hrun
  rw [Host.run_readInput_some hfile] at hinput
  cases hinput
  obtain ⟨encoded, h₂, hencode, hrun⟩ := Host.run_work_bind_eq_ok_iff.mp hrun
  rw [Host.run_workRelay, Prod.mk.injEq, Disk.mapError_eq_ok_iff] at hencode
  cases hrun
  exact ⟨encoded, rfl, Prod.ext hencode.1 hencode.2⟩

/-- A body on the standard input is decoded without its line end, and the text is printed with
one. -/
lemma run_decode {body : String} (hinput : h.input = body.toUTF8)
    (hdecode : ({ h with input := ByteArray.empty } : Host).run
      (Console.relay s.root ((Codec.ofConfig s.config).decode (dropLineEnd body)).run) =
        (.ok text, h')) :
    h.run (s.decode none).run = (.ok { out := text ++ "\n" }, h') := by
  unfold Setup.decode
  refine Host.run_work_bind_eq_ok_iff.mpr ⟨_, _, Host.run_readInput_none hinput,
    Host.run_work_bind_eq_ok_iff.mpr ⟨text, h', ?_, rfl⟩⟩
  rw [Host.run_workRelay, hdecode]
  rfl

/-! ## Two commands -/

/-- The host that a command leaves to the next one in a pipe: the disk is the same, what was printed
is the standard input, and the services start anew. -/
def Host.next (h : Host) (printed : Printed) (services : World) : Host :=
  ⟨h.disk, printed.out.toUTF8, services⟩

/-- What was encoded from a file, no object with a claim check, is printed with one line end by every
command that decodes the output with the same configuration and the same store; only a text that
stays inline loses a carriage return at its end.  A command with the same options and variables has
the same configuration. -/
theorem encoded_file_decodes {config : Config} {isColored : Bool} {arguments : List String}
    {environment : List (String × String)} {services : World}
    (hbegins : Begins h arguments environment ⟨config, root, isColored⟩ (.encode (some path)))
    (hfile : h.disk.read (Disk.Path.ofFileText path) = .ok text.toUTF8)
    (hrun : h.run (Cli.run arguments environment) = (⟨0, printed⟩, h'))
    (hclaim : ¬ReadsClaimCheck text) (hservices : h.services.Opens → services.Opens) :
    (∀ arguments' environment' isColored',
      Begins (h'.next printed services) arguments' environment' ⟨config, root, isColored'⟩
        (.decode none) →
      ((h'.next printed services).run (Cli.run arguments' environment')).1 =
        ⟨0, { out := throughPipe config text ++ "\n" }⟩) ∧
    ∀ command arguments', Command.ofArguments arguments = .ok command →
      Command.ofArguments arguments' = .ok { command with task := .decode none } →
      Begins (h'.next printed services) arguments' environment ⟨config, root, isColored⟩
        (.decode none) := by
  obtain ⟨encoded, hout, hencoded⟩ := exists_of_encode hfile (hbegins.run_eq_ok_iff.mp hrun)
  obtain ⟨command, hcommand, -, hloaded, hroot, hcolored⟩ := hbegins
  refine ⟨fun arguments' environment' isColored' hbegins' => ?_,
    fun other arguments' hother hcommand' => ?_⟩
  · obtain ⟨base, -, hoverrides⟩ := Host.run_loadConfig_eq_ok_iff.mp hloaded
    have hdisk : (⟨h'.disk, ByteArray.empty, services⟩ : Host).disk = h'.disk := rfl
    obtain ⟨last, hdecode⟩ :=
      run_decode_of_encodeText (.inr ⟨base, environment, hoverrides⟩) hclaim hencoded hdisk hservices
    rw [← hout] at hdecode
    rw [hbegins'.run_eq_ok_iff.mpr (run_decode rfl hdecode)]
  · rw [hcommand] at hother
    cases hother
    have hfills : h.disk.Fills (fun _ _ => True) h'.disk := Host.fills_of_encodeText hencoded
    have hagain : ((h'.next printed services).run (loadConfig command.configFile environment).run).1 =
        .ok config := run_loadConfig_of_fills hfills hloaded
    exact ⟨_, hcommand', rfl, hagain, hroot, hcolored⟩

/-- A host with one file. -/
def fileHost (text : String) : Host :=
  ⟨{ tree := .directory [("f".toUTF8, .file text.toUTF8)] }, ByteArray.empty, World.repeating⟩

/-- A command that encodes a text with a carriage return at its end. -/
def encodedReturn (environment : List (String × String)) : Ending × Host :=
  (fileHost "a\r").run (Cli.run ["encode", "f"] environment)

/-- A command that decodes what was printed. -/
def decodedReturn (environment : List (String × String)) : Ending :=
  (((encodedReturn environment).2.next (encodedReturn environment).1.printed World.repeating).run
    (Cli.run ["decode"] environment)).1

/-- The text is no object with a claim check. -/
lemma not_readsClaimCheck_return : ¬ReadsClaimCheck "a\r" := by
  rintro ⟨value, hparse, -⟩
  have herror : (Json.Value.parse "a\r").isOk = false := by decide +kernel
  rw [hparse] at herror
  cases herror

/-- The text stays inline by default, so it comes back without its carriage return. -/
theorem carriage_return_dropped :
    ¬ReadsClaimCheck "a\r" ∧ (encodedReturn []).1.code = 0 ∧
      (encodedReturn []).1.printed.out = "a\r\n" ∧ (decodedReturn []).code = 0 ∧
      (decodedReturn []).printed.out = "a\n" :=
  ⟨not_readsClaimCheck_return, by decide +kernel, by decide +kernel, by decide +kernel,
    by decide +kernel⟩

/-- Variables that offload texts of more than one byte. -/
def offloadingVariables : List (String × String) :=
  [("COURIER_OFFLOAD_STORAGE_ACCOUNT_NAME", "stairlock"), ("COURIER_OFFLOAD_THRESHOLD_BYTES", "1")]

/-- The configuration that they make of the defaults. -/
def offloadingConfig : Config := { offloadAccount := some "stairlock", thresholdBytes := 1 }

/-- The same text comes back whole when it is offloaded. -/
theorem carriage_return_kept :
    (encodedReturn offloadingVariables).1.code = 0 ∧
      decodedReturn offloadingVariables = ⟨0, { out := "a\r\n" }⟩ := by
  have hcode : (encodedReturn offloadingVariables).1.code = 0 := by decide +kernel
  have hbegins : Begins (fileHost "a\r") ["encode", "f"] offloadingVariables
      ⟨offloadingConfig, Disk.Path.ofText ".courier/store", false⟩ (.encode (some "f")) :=
    ⟨{ task := .encode (some "f") }, rfl, rfl, rfl, rfl, rfl⟩
  have hrun : (fileHost "a\r").run (Cli.run ["encode", "f"] offloadingVariables) =
      (⟨0, (encodedReturn offloadingVariables).1.printed⟩, (encodedReturn offloadingVariables).2) := by
    rw [← hcode]
    rfl
  have hfile : (fileHost "a\r").disk.read (Disk.Path.ofFileText "f") = .ok "a\r".toUTF8 := by
    decide +kernel
  have hservices : (fileHost "a\r").services.Opens → World.repeating.Opens := id
  obtain ⟨hdecodes, hagain⟩ :=
    encoded_file_decodes hbegins hfile hrun not_readsClaimCheck_return hservices
  refine ⟨hcode, ?_⟩
  have hthrough : throughPipe offloadingConfig "a\r" ++ "\n" = "a\r\n" := by decide +kernel
  rw [← hthrough]
  exact hdecodes _ _ _ (hagain _ ["decode"] rfl rfl)

end Pipe

end ClaimCheck.Cli
