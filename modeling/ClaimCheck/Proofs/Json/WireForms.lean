import Mathlib
import ClaimCheck.Channel.Message
import ClaimCheck.Config.Basic
import ClaimCheck.Deletion.Target
import ClaimCheck.Locator
import ClaimCheck.Proofs.Json.Contents

/-!
# Records and back

A record is written as one object with all its fields in order.  While that object is read, the slots
are filled one after the other: the members that were written take the empty slots to the slots with
all contents (`absorbs_members`), because no label is used twice and each content reads back.

So every record reads back from its compact text as soon as its layout has distinct labels and only
contents that read back (`Record.parse_print`).  This is the case for all records that are exchanged
except events, whose data may be any document (`wireForms_readBack`).
-/

namespace ClaimCheck.Json

open Text

/-! ## Slots -/

/-- The slots that hold all contents of a row. -/
def Slots.full : (fields : List Field) → Row fields → Slots fields
  | [], _ => ()
  | _ :: fields, (content, row) => (some content, Slots.full fields row)

/-- Slots that hold all contents make up the row. -/
lemma Slots.toRow_full (fields : List Field) (row : Row fields) :
    Slots.toRow fields (Slots.full fields row) = .ok row := by
  induction fields with
  | nil => rfl
  | cons field fields ih =>
    obtain ⟨content, row⟩ := row
    rw [Slots.full, Slots.toRow, Option.some_or]
    dsimp only
    rw [ih row]
    rfl

section Slots

variable {fuel levels : Nat}

/-- The members of further fields leave the slot of the first field as it is. -/
lemma Absorbs.behind {field : Field} {fields : List Field} {members : List (String × Value)}
    {s t : Slots fields}
    (h : Absorbs (fun key => Slots.readMember fuel levels key fields) members s t)
    (hlabel : ∀ entry ∈ members, entry.1 ≠ field.label) (slot : Option field.shape.Content) :
    Absorbs (fun key => Slots.readMember fuel levels key (field :: fields)) members (slot, s)
      (slot, t) := by
  induction h with
  | nil s => exact .nil (slot, s)
  | @cons key value members s t u hread _ ih =>
    obtain ⟨hkey, hlabel⟩ := List.forall_mem_cons.mp hlabel
    refine .cons (fun rest hrest => ?_) (ih hlabel)
    rw [Slots.readMember, if_neg hkey, hread rest hrest]
    rfl

/-- The labels of the members that a row is written as. -/
lemma Row.map_fst_members (fields : List Field) (row : Row fields) :
    (Row.members fields row).map Prod.fst = fields.map Field.label := by
  induction fields with
  | nil => rfl
  | cons field fields ih =>
    obtain ⟨content, row⟩ := row
    rw [Row.members, List.map_cons, List.map_cons, ih row]

/-- The members that a row is written as fill all slots. -/
lemma absorbs_members (hlevels : 0 < levels) {fields : List Field}
    (hlabels : (fields.map Field.label).Nodup)
    (hexact : ∀ field ∈ fields, field.shape.isExact = true) (row : Row fields)
    (hfuel : ∀ entry ∈ Row.members fields row, (compactChars entry.2).length ≤ fuel) :
    Absorbs (fun key => Slots.readMember fuel levels key fields) (Row.members fields row)
      (Slots.empty fields) (Slots.full fields row) := by
  induction fields with
  | nil => exact .nil _
  | cons field fields ih =>
    obtain ⟨content, row⟩ := row
    rw [List.map_cons, List.nodup_cons] at hlabels
    rw [List.forall_mem_cons] at hexact
    rw [Row.members, List.forall_mem_cons] at hfuel
    have hmore := ih hlabels.2 hexact.2 row hfuel.2
    have hother : ∀ entry ∈ Row.members fields row, entry.1 ≠ field.label := by
      intro entry hentry heq
      refine hlabels.1 ?_
      rw [← heq, ← Row.map_fst_members fields row]
      exact List.mem_map_of_mem hentry
    refine .cons (fun rest hrest => ?_) (hmore.behind hother (some content))
    change Slots.readMember fuel levels field.label (field :: fields) (none, Slots.empty fields) _ = _
    rw [Slots.readMember, if_pos rfl, Option.isSome_none, if_neg Bool.false_ne_true, readColon_cons]
    dsimp only
    rw [Shape.read_toValue hexact.1 content hlevels hfuel.1 hrest]
    rfl

end Slots

/-! ## Records -/

/-- A layout with distinct labels and only contents that read back. -/
structure Layout.IsExact (layout : Layout) : Prop where
  labels : (layout.fields.map Field.label).Nodup
  shapes : ∀ field ∈ layout.fields, field.shape.isExact = true

/-- The object that a row is written as is read as that row. -/
lemma Layout.read_members {layout : Layout} (hexact : layout.IsExact) (row : Row layout.fields)
    {fuel levels : Nat} (hlevels : 0 < levels)
    (hfuel : (compactMembers (Row.members layout.fields row)).length ≤ fuel) :
    layout.read fuel (levels + 1) ('\x7b' :: compactMembers (Row.members layout.fields row)) =
      .ok (row, []) := by
  obtain ⟨hlength, hvalues⟩ := length_compactMembers (Row.members layout.fields row)
  have hsmall : ∀ entry ∈ Row.members layout.fields row, (compactChars entry.2).length ≤ fuel :=
    fun entry hentry => Nat.le_trans (hvalues entry hentry) hfuel
  have hfew : (Row.members layout.fields row).length < fuel := Nat.lt_of_lt_of_le hlength hfuel
  have habsorbs := absorbs_members hlevels hexact.labels hexact.shapes row hsmall
  have hfill := habsorbs.readMembers hfew []
  rw [List.append_nil] at hfill
  rw [Layout.read, skipSpace_cons (by decide)]
  simp only [hfill, Slots.toRow_full]

/-- A record reads back from its compact text. -/
theorem Record.parse_print {α : Type} [Record α] (hexact : (Record.layout α).IsExact) (x : α) :
    Record.parse α (Record.print x) = .ok x := by
  have hchars : (Record.print x).toList =
      '\x7b' :: compactMembers (Row.members (Record.layout α).fields (Record.toRow x)) := by
    rw [Record.print, Value.compact, String.toList_ofList, Record.toValue, compactChars]
  have hread : (Record.layout α).read ((Record.print x).toList.length + 1) (126 + 1)
      (Record.print x).toList = .ok (Record.toRow x, []) := by
    rw [hchars]
    refine Layout.read_members hexact (Record.toRow x) (by decide) ?_
    rw [List.length_cons]
    omega
  have hall : readAll (fun fuel => (Record.layout α).read fuel maxLevels) (Record.print x) =
      .ok (Record.toRow x) := by
    rw [readAll, maxLevels, hread]
    rfl
  rw [Record.parse, hall]
  change Except.ok (Record.ofRow (Record.toRow x)) = _
  rw [Record.ofRow_toRow]

/-- All values of a record type read back from their compact texts, which are the same after they
were read and written again. -/
def Record.ReadsBack (α : Type) [Record α] : Prop :=
  ∀ x : α, Record.parse α (Record.print x) = .ok x ∧
    (Record.parse α (Record.print x)).map Record.print = .ok (Record.print x)

/-- Records of an exact layout read back. -/
lemma Record.readsBack_of_isExact {α : Type} [Record α] (hexact : (Record.layout α).IsExact) :
    Record.ReadsBack α := by
  intro x
  have hparse := Record.parse_print hexact x
  exact ⟨hparse, by rw [hparse]; rfl⟩

/-- Locators, endpoints, targets of deletions, configurations, thresholds and messages read back. -/
theorem wireForms_readBack :
    Record.ReadsBack Locator ∧ Record.ReadsBack Endpoint ∧ Record.ReadsBack Target ∧
      Record.ReadsBack Config ∧ Record.ReadsBack Threshold ∧ Record.ReadsBack Message := by
  refine ⟨?_, ?_, ?_, ?_, ?_, ?_⟩ <;>
    exact Record.readsBack_of_isExact ⟨by decide, by decide⟩

end ClaimCheck.Json
