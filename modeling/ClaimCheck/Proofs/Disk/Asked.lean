import Mathlib
import ClaimCheck.Proofs.Disk.Spelled
import ClaimCheck.Proofs.Store.Account

/-!
# What calls ask of a file system

The names of accounts, containers and blobs may be any texts at all, also ones that were made to lead
elsewhere.  A store on disk builds its paths from the pieces of these names, and takes them only if
each piece names one entry of a directory (`Name.IsComponent`).  So a blob has one path, which goes on
from the root by the account, the container and the pieces of its name (`Path.ofBlob`), and no two
blobs have the same.

`MayAsk` lists the requests that a call may make with such paths after what was asked and replied
before, and whatever the file system replies, no others are made (`asksAfter_mayAsk`).  All of them are
below the root, but for the directories on the way to the one of the account: a put asks for these one
by one, from the innermost on up, each when the one below it was missing (`asksAfter_staysWithin`).
-/

namespace ClaimCheck.Disk

open Store Text

/-! ## Components -/

/-- A name of one entry of a directory: not empty, neither `.` nor `..`, and without a slash. -/
def Name.IsComponent (name : Name) : Prop :=
  ∃ cs, name = ofChars cs ∧ cs ≠ [] ∧ cs ≠ ['.'] ∧ cs ≠ ['.', '.'] ∧ '/' ∉ cs

/-- The names that the pieces of a blob's name spell. -/
def pieceNames (name : String) : List Name := (parts name).map Name.ofChars

namespace Name

/-- A text spells a component when it is not special and has no slash. -/
lemma isComponent_ofChars_iff {cs : List Char} :
    IsComponent (ofChars cs) ↔ isSpecial cs = false ∧ '/' ∉ cs := by
  have hspecial : isSpecial cs = false ↔ cs ≠ [] ∧ cs ≠ ['.'] ∧ cs ≠ ['.', '.'] := by
    simp [isSpecial, and_assoc]
  rw [hspecial, and_assoc, and_assoc]
  constructor
  · rintro ⟨others, heq, h⟩
    rw [ofChars_injective heq]
    exact h
  · exact fun h => ⟨cs, rfl, h⟩

/-- The accounts and containers that are accepted are those whose names are components. -/
lemma isComponent_toUTF8_iff {text : String} :
    IsComponent text.toUTF8 ↔ isEntryName text = true := by
  rw [toUTF8_eq, isComponent_ofChars_iff]
  simp [isEntryName]

/-- A component leads to an entry. -/
lemma IsComponent.isPlain {name : Name} (h : name.IsComponent) : name.IsPlain := by
  obtain ⟨cs, rfl, h⟩ := h
  exact isPlain_ofChars (isComponent_ofChars_iff.mp ⟨cs, rfl, h⟩).1

end Name

/-- The names of blobs that are accepted are those whose pieces are components. -/
lemma segments_eq (name : String) :
    ((∀ piece ∈ pieceNames name, piece.IsComponent) →
        Account.segments name = .ok (pieceNames name)) ∧
      ((¬∀ piece ∈ pieceNames name, piece.IsComponent) →
        Account.segments name = .error (.invalidName .blob name)) := by
  have hiff : (∀ piece ∈ pieceNames name, piece.IsComponent) ↔
      ∀ part ∈ parts name, isSpecial part = false := by
    rw [pieceNames, List.forall_mem_map]
    refine forall₂_congr fun part hpart => ?_
    rw [Name.isComponent_ofChars_iff]
    exact and_iff_left (not_mem_of_mem_pieces hpart)
  rw [hiff]
  refine ⟨fun h => segments_eq_ok_iff.mpr ⟨h, rfl⟩, fun h => ?_⟩
  have hsegments : Account.segments name = if (parts name).any isSpecial then
    .error (.invalidName .blob name) else .ok ((parts name).map Name.ofChars) := rfl
  rw [hsegments, if_pos]
  simpa using h

/-! ## Paths -/

/-- The path of a container. -/
def Path.ofContainer (root : Path) (account container : String) : Path :=
  root.append [account.toUTF8, container.toUTF8]

/-- The path of a blob: the root, the account, the container and the pieces of the name. -/
def Path.ofBlob (root : Path) (account : String) (place : Locator) : Path :=
  (Path.ofContainer root account place.container).append (pieceNames place.name)

/-- A path that goes on from a root by components. -/
def Path.IsWithin (root path : Path) : Prop :=
  ∃ names ≠ [], path = root.append names ∧ ∀ name ∈ names, name.IsComponent

/-- A path of a directory on the way to what another path leads to. -/
def Path.IsAncestor (path full : Path) : Prop :=
  path.names ≠ [] ∧ ∃ rest ≠ [], full = path.append rest

/-- A directory on the way to something that is made when its turn comes: it is the one that this is
in, or one that is above a directory that was missing. -/
structure Path.IsDue (past : Program.Past Request Request.Reply) (path full : Path) : Prop where
  isAncestor : path.IsAncestor full
  occasion : (∃ name, full = path.child name) ∨
    ∃ name, (path.child name).IsAncestor full ∧ WasMissing past (path.child name)

/-- The pieces of a name tell the name. -/
lemma pieceNames_injective : Function.Injective pieceNames := by
  intro name other h
  have hparts : parts name = parts other := List.map_injective_iff.mpr Name.ofChars_injective h
  have hjoin := congrArg (join '/') hparts
  unfold parts at hjoin
  rw [join_pieces, join_pieces] at hjoin
  exact String.toList_injective hjoin

/-- A blob's name has a piece. -/
lemma pieceNames_ne_nil (name : String) : pieceNames name ≠ [] :=
  fun h => pieces_ne_nil _ _ (List.map_eq_nil_iff.mp h)

/-- The names on the way from a root to a blob tell the account and the blob. -/
lemma eq_of_blobNames {account other : String} {place place' : Locator}
    (h : account.toUTF8 :: place.container.toUTF8 :: pieceNames place.name =
      other.toUTF8 :: place'.container.toUTF8 :: pieceNames place'.name) :
    account = other ∧ place = place' := by
  obtain ⟨haccount, h⟩ := List.cons.inj h
  obtain ⟨hcontainer, hname⟩ := List.cons.inj h
  exact ⟨toUTF8_injective haccount,
    Locator.ext (toUTF8_injective hcontainer) (pieceNames_injective hname)⟩

/-- The names that go on from a root to a blob. -/
lemma Path.ofBlob_eq (root : Path) (account : String) (place : Locator) :
    Path.ofBlob root account place =
      root.append (account.toUTF8 :: place.container.toUTF8 :: pieceNames place.name) :=
  Path.append_append ..

/-- A container is in the directory of its account. -/
lemma child_prefix_ofContainer (root : Path) (account container : String) :
    (root.child account.toUTF8).names <+: (Path.ofContainer root account container).names :=
  ⟨[container.toUTF8], List.append_assoc ..⟩

/-- What is in a container is in the directory of its account. -/
lemma child_prefix_ofContainer_append (root : Path) (account container : String)
    (names : List Name) : (root.child account.toUTF8).names <+:
      ((Path.ofContainer root account container).append names).names :=
  (child_prefix_ofContainer root account container).trans (List.prefix_append ..)

/-! ## What calls may ask -/

/-- The names that a call goes on by from the directory of its account. -/
def callNames : Call → List Name
  | .put place _ => place.container.toUTF8 :: pieceNames place.name
  | .get place => place.container.toUTF8 :: pieceNames place.name
  | .deleteBlob place => place.container.toUTF8 :: pieceNames place.name
  | .list container => [container.toUTF8]
  | .deleteContainer container => [container.toUTF8]

/-- All names that a call goes on by are components. -/
def IsAddressed (call : Call) : Prop := ∀ name ∈ callNames call, name.IsComponent

/-- The requests that a call to the store of an account below a root may make of a file system, after
what was asked and replied before. -/
inductive MayAsk (root : Path) (account : String) :
    Call → Program.Past Request Request.Reply → Request → Prop
  | find {call : Call} {past : Program.Past Request Request.Reply}
      (hcontainer : Name.IsComponent call.container.toUTF8) :
      MayAsk root account call past (.isThere (.ofContainer root account call.container))
  | makeDirectory {place : Locator} {data : ByteArray} {path : Path}
      {past : Program.Past Request Request.Reply} (hcall : IsAddressed (.put place data))
      (hpath : path.IsDue past (.ofBlob root account place)) :
      MayAsk root account (.put place data) past (.makeDirectory path)
  | findDirectory {place : Locator} {data : ByteArray} {path : Path}
      {past : Program.Past Request Request.Reply} (hcall : IsAddressed (.put place data))
      (hpath : path.IsDue past (.ofBlob root account place)) :
      MayAsk root account (.put place data) past (.isDirectory path)
  | create {place : Locator} {data : ByteArray} {past : Program.Past Request Request.Reply}
      (hcall : IsAddressed (.put place data)) :
      MayAsk root account (.put place data) past (.createNew (.ofBlob root account place))
  | write {place : Locator} {data : ByteArray} {past : Program.Past Request Request.Reply}
      (hcall : IsAddressed (.put place data)) :
      MayAsk root account (.put place data) past (.write (.ofBlob root account place) data)
  | discard {place : Locator} {data : ByteArray} {past : Program.Past Request Request.Reply}
      (hcall : IsAddressed (.put place data)) :
      MayAsk root account (.put place data) past (.remove (.ofBlob root account place))
  | read {place : Locator} {past : Program.Past Request Request.Reply}
      (hcall : IsAddressed (.get place)) :
      MayAsk root account (.get place) past (.read (.ofBlob root account place))
  | remove {place : Locator} {past : Program.Past Request Request.Reply}
      (hcall : IsAddressed (.deleteBlob place)) :
      MayAsk root account (.deleteBlob place) past (.remove (.ofBlob root account place))
  | removeDirectory {place : Locator} {front rest : List Name}
      {past : Program.Past Request Request.Reply} (hcall : IsAddressed (.deleteBlob place))
      (hfront : front ≠ []) (hrest : rest ≠ []) (hnames : pieceNames place.name = front ++ rest) :
      MayAsk root account (.deleteBlob place) past
        (.removeDirectory ((Path.ofContainer root account place.container).append front))
  | readDirectory {container : String} {path : Path} {past : Program.Past Request Request.Reply}
      (hcall : IsAddressed (.list container))
      (hmet : IsMet past (.ofContainer root account container) path) :
      MayAsk root account (.list container) past (.readDirectory path)
  | removeTree {container : String} {past : Program.Past Request Request.Reply}
      (hcall : IsAddressed (.deleteContainer container)) :
      MayAsk root account (.deleteContainer container) past
        (.removeTree (.ofContainer root account container))

/-- A request that stays below a root: its path goes on from the root by components, or it reads a
directory that was met from such a path on.  But a directory on the way to that of the account, the root
or one above it, is asked for as well when the one below it was missing. -/
inductive StaysWithin (root : Path) (account : String)
    (past : Program.Past Request Request.Reply) : Request → Prop
  | within {r : Request} (hpath : root.IsWithin r.path) : StaysWithin root account past r
  | found {first path : Path} (hfirst : root.IsWithin first) (hmet : IsMet past first path) :
      StaysWithin root account past (.readDirectory path)
  | above {r : Request} {path : Path} {name : Name} {rest : List Name}
      (hr : r = .makeDirectory path ∨ r = .isDirectory path)
      (haccount : root.child account.toUTF8 = (path.child name).append rest)
      (hmissing : WasMissing past (path.child name)) : StaysWithin root account past r

/-! ## What calls ask -/

section Asking

variable {root : Path} {account container : String} {place : Locator} {path : Path}
  {names : List Name}

/-- The store of an account below a root. -/
def accountBelow (root : Path) (account : String) : Account := ⟨root.child account.toUTF8⟩

/-- The path of a container goes on from the root by the account and the container. -/
lemma containerPath_below (root : Path) (account container : String) :
    (accountBelow root account).containerPath container =
      if isEntryName container then .ok (.ofContainer root account container)
      else .error (.invalidName .container container) := by
  unfold Account.containerPath
  have hpath : (accountBelow root account).root.child container.toUTF8 =
      Path.ofContainer root account container := Path.append_append ..
  rw [hpath]

/-- A container that has a path is a component. -/
lemma of_containerPath_below (h : (accountBelow root account).containerPath container = .ok path) :
    Name.IsComponent container.toUTF8 ∧ path = .ofContainer root account container := by
  rw [containerPath_below] at h
  split at h
  · next hname =>
    cases h
    exact ⟨Name.isComponent_toUTF8_iff.mpr hname, rfl⟩
  · cases h

/-- The pieces of a name that is accepted are components. -/
lemma of_segments (h : Account.segments place.name = .ok names) :
    (∀ piece ∈ pieceNames place.name, piece.IsComponent) ∧ names = pieceNames place.name := by
  by_cases hpieces : ∀ piece ∈ pieceNames place.name, piece.IsComponent
  · rw [(segments_eq place.name).1 hpieces] at h
    cases h
    exact ⟨hpieces, rfl⟩
  · rw [(segments_eq place.name).2 hpieces] at h
    cases h

/-- The directories that are made for a blob are those on the way to it. -/
lemma isAncestor_of_prefix {front : List Name} (hfront : front ≠ [])
    (hstart : front <+: ((Path.ofContainer root account place.container).append
      (pieceNames place.name).dropLast).names) :
    (⟨root.isAbsolute, front⟩ : Path).IsAncestor (.ofBlob root account place) := by
  obtain ⟨rest, hrest⟩ := hstart
  have hlast := List.dropLast_append_getLast (pieceNames_ne_nil place.name)
  refine ⟨hfront, rest ++ [(pieceNames place.name).getLast (pieceNames_ne_nil place.name)],
    by simp, ?_⟩
  unfold Path.ofBlob Path.append at *
  rw [← List.append_assoc, hrest, List.append_assoc, hlast]
  rfl

/-- A directory on the way to a blob comes when the one below it was missing. -/
lemma isDue_of_prefix {past : Program.Past Request Request.Reply} {front : List Name}
    (hfront : front ≠ [])
    (hstart : front <+: ((Path.ofContainer root account place.container).append
      (pieceNames place.name).dropLast).names)
    (hwhy : front ≠ ((Path.ofContainer root account place.container).append
        (pieceNames place.name).dropLast).names →
      ∃ name, front ++ [name] <+: ((Path.ofContainer root account place.container).append
          (pieceNames place.name).dropLast).names ∧
        WasMissing past ⟨root.isAbsolute, front ++ [name]⟩) :
    (⟨root.isAbsolute, front⟩ : Path).IsDue past (.ofBlob root account place) where
  isAncestor := isAncestor_of_prefix hfront hstart
  occasion := by
    by_cases hlast : front = ((Path.ofContainer root account place.container).append
      (pieceNames place.name).dropLast).names
    · refine .inl ⟨(pieceNames place.name).getLast (pieceNames_ne_nil place.name), ?_⟩
      have hpieces := List.dropLast_append_getLast (pieceNames_ne_nil place.name)
      rw [hlast]
      unfold Path.ofBlob Path.child Path.append
      rw [List.append_assoc, hpieces]
      rfl
    · obtain ⟨name, hnext, hmissing⟩ := hwhy hlast
      exact .inr ⟨name, isAncestor_of_prefix (by simp) hnext, hmissing⟩

section Past

variable {kinds : Program.Past Request Request.Reply → Request → Prop}
  {past : Program.Past Request Request.Reply}

/-- Whether a container is there is asked before anything else is done in it. -/
lemma asksAfter_presentContainer {α : Type} {f : Path → Attempt α}
    (hfind : Name.IsComponent container.toUTF8 →
      kinds past (.isThere (.ofContainer root account container)))
    (hf : Name.IsComponent container.toUTF8 → ∀ later,
      Program.AsksAfter kinds (f (.ofContainer root account container)).run later) :
    Program.AsksAfter kinds ((accountBelow root account).presentContainer container >>= f).run
      past := by
  unfold Account.presentContainer
  cases hpath : (accountBelow root account).containerPath container with
  | error fault => trivial
  | ok path =>
    obtain ⟨hcontainer, rfl⟩ := of_containerPath_below hpath
    refine ⟨hfind hcontainer, fun reply => ?_⟩
    rcases reply with fault | there | there
    · trivial
    · trivial
    · exact hf hcontainer _

/-- Putting the fault into other words asks nothing more. -/
lemma asksAfter_wrapping {α : Type} {words : Fault → Store.Fault} {p : Action (Except Fault α)}
    (hp : p.AsksAfter kinds past) : Program.AsksAfter kinds (Attempt.wrapping words p).run past :=
  Program.AsksAfter.bind hp fun _ _ _ => trivial

/-- An attempt that begins with an outcome that is known. -/
lemma asksAfter_liftM_bind {α β : Type} {outcome : Except Store.Fault α} {f : α → Attempt β}
    (hf : ∀ a, outcome = .ok a → Program.AsksAfter kinds (f a).run past) :
    Program.AsksAfter kinds ((liftM outcome : Attempt α) >>= f).run past := by
  rcases outcome with fault | a
  · trivial
  · exact hf a rfl

/-- A put asks to make the directories on the way to the blob, and then for the blob itself. -/
lemma asksAfter_put (root : Path) (account : String) (place : Locator) (data : ByteArray) :
    Program.AsksAfter (MayAsk root account (.put place data))
      ((accountBelow root account).put place data).run past := by
  refine asksAfter_liftM_bind fun path hpath => asksAfter_liftM_bind fun names hsegments => ?_
  obtain ⟨hcontainer, rfl⟩ := of_containerPath_below hpath
  obtain ⟨hpieces, rfl⟩ := of_segments hsegments
  have hcall : IsAddressed (.put place data) := List.forall_mem_cons.mpr ⟨hcontainer, hpieces⟩
  refine Program.asksAfter_attempt_bind (asksAfter_wrapping ?_) fun _ later _ => ?_
  · refine asksAfter_makeUpTo fun front hfront hstart later _ hwhy => ?_
    have hdue := isDue_of_prefix hfront hstart hwhy
    exact ⟨.makeDirectory hcall hdue, .findDirectory hcall hdue⟩
  · -- what is asked for the blob itself does not depend on replies
    have hkind : ∀ past r, (∀ past, MayAsk root account (.put place data) past r) →
        MayAsk root account (.put place data) past r := fun past _ h => h past
    refine Program.AsksOnly.asksAfter ?_ hkind
    refine Program.asksOnly_attempt_bind (Attempt.asksOnly_wrapping
      (Program.asksOnly_request fun _ => .create hcall)) fun _ => Attempt.asksOnly_wrapping ?_
    refine (Program.asksOnly_request (r := Request.write _ data)
      fun _ => .write hcall).bind fun outcome => ?_
    split
    · trivial
    · exact (Program.asksOnly_request (r := Request.remove _)
        fun _ => .discard hcall).bind fun _ => trivial

/-- Whatever is replied, a call asks only what it may. -/
lemma asksAfter_mayAsk (root : Path) (account : String) (call : Call) :
    Program.AsksAfter (MayAsk root account call) ((accountBelow root account).perform call).run
      past := by
  cases call with
  | put place data => exact asksAfter_put root account place data
  | get place =>
    refine asksAfter_presentContainer (fun h => .find h) fun hcontainer later => ?_
    refine asksAfter_liftM_bind fun names hsegments => ?_
    obtain ⟨hpieces, rfl⟩ := of_segments hsegments
    have hcall : IsAddressed (.get place) := List.forall_mem_cons.mpr ⟨hcontainer, hpieces⟩
    exact asksAfter_wrapping ⟨.read hcall, fun _ => trivial⟩
  | deleteBlob place =>
    refine asksAfter_presentContainer (fun h => .find h) fun hcontainer later => ?_
    refine asksAfter_liftM_bind fun names hsegments => ?_
    obtain ⟨hpieces, rfl⟩ := of_segments hsegments
    have hcall : IsAddressed (.deleteBlob place) := List.forall_mem_cons.mpr ⟨hcontainer, hpieces⟩
    refine Program.asksAfter_attempt_bind (asksAfter_wrapping ⟨.remove hcall, fun _ => trivial⟩)
      fun _ _ _ => ?_
    have hprune : Program.AsksOnly (fun r => ∀ past, MayAsk root account (.deleteBlob place) past r)
        (prune (Path.ofContainer root account place.container)
          (pieceNames place.name).dropLast.reverse) := by
      refine asksOnly_prune fun front hfront hstart _ => ?_
      obtain ⟨rest, hrest⟩ := hstart
      have hlast := List.dropLast_append_getLast (pieceNames_ne_nil place.name)
      rw [← hrest, List.append_assoc] at hlast
      exact .removeDirectory hcall hfront (by simp) hlast.symm
    exact (Attempt.asksOnly_lift hprune).asksAfter fun past _ h => h past
  | list container =>
    refine asksAfter_presentContainer (fun h => .find h) fun hcontainer later => ?_
    have hcall : IsAddressed (.list container) :=
      List.forall_mem_singleton.mpr hcontainer
    have hcollect : (Listing.start (.ofContainer root account container)).collect.AsksAfter
        (MayAsk root account (.list container)) later :=
      Listing.asksAfter_collect (fun _ _ hmet => .readDirectory hcall hmet) _
        (List.forall_mem_singleton.mpr .here)
    exact (asksAfter_wrapping hcollect).bind fun outcome _ _ => by
      rcases outcome <;> trivial
  | deleteContainer container =>
    refine asksAfter_liftM_bind fun path hpath => ?_
    obtain ⟨hcontainer, rfl⟩ := of_containerPath_below hpath
    have hcall : IsAddressed (.deleteContainer container) :=
      List.forall_mem_singleton.mpr hcontainer
    exact asksAfter_wrapping ⟨.removeTree hcall, fun _ => trivial⟩

end Past

end Asking

/-! ## Requests below the root -/

section Within

variable {root path : Path} {account : String} {call : Call} {r : Request} {names rest : List Name}

/-- A path on the way to what components lead to, from the first of them on. -/
lemma isWithin_of_append {first : Name} (hnames : ∀ name ∈ names, name.IsComponent)
    (heq : root.append names = path.append rest) (hstart : (root.child first).names <+: path.names) :
    root.IsWithin path := by
  obtain ⟨more, hmore⟩ := hstart
  have hpath : path = root.append (first :: more) := by
    obtain ⟨isAbsolute, others⟩ := path
    have habsolute : root.isAbsolute = isAbsolute := congrArg Path.isAbsolute heq
    change root.names ++ [first] ++ more = others at hmore
    rw [← hmore, ← habsolute, List.append_assoc]
    rfl
  have hall : names = first :: more ++ rest := by
    rw [hpath, Path.append_append] at heq
    exact List.append_cancel_left (congrArg Path.names heq)
  refine ⟨first :: more, List.cons_ne_nil _ _, hpath, fun name hname => hnames name ?_⟩
  rw [hall]
  exact List.mem_append_left _ hname

/-- A path that begins as another one goes on to it. -/
lemma Path.exists_append_of_prefix {full : Path} (habsolute : path.isAbsolute = full.isAbsolute)
    (hstart : path.names <+: full.names) : ∃ rest, full = path.append rest := by
  obtain ⟨rest, hrest⟩ := hstart
  refine ⟨rest, ?_⟩
  unfold Path.append
  rw [hrest, habsolute]

/-- A directory on the way to a blob is below the root or on the way to the directory of the account;
then the one below it was missing. -/
lemma Path.IsDue.isWithin_or {past : Program.Past Request Request.Reply} {place : Locator}
    (h : path.IsDue past (.ofBlob root account place))
    (hnames : ∀ name ∈ account.toUTF8 :: callNames (.get place), Name.IsComponent name) :
    root.IsWithin path ∨ ∃ name rest, root.child account.toUTF8 = (path.child name).append rest ∧
      WasMissing past (path.child name) := by
  obtain ⟨-, rest, -, heq⟩ := h.isAncestor
  have hblob := Path.ofBlob_eq root account place
  have haccount : (root.child account.toUTF8).names <+: (Path.ofBlob root account place).names :=
    child_prefix_ofContainer_append ..
  by_cases hstart : (root.child account.toUTF8).names <+: path.names
  · exact .inl (isWithin_of_append hnames (hblob.symm.trans heq) hstart)
  · have hlength : path.names.length < (root.child account.toUTF8).names.length := by
      by_contra hlong
      refine hstart (List.prefix_of_prefix_length_le haccount ?_ (Nat.not_lt.mp hlong))
      rw [heq]
      exact List.prefix_append _ _
    rcases h.occasion with ⟨name, hchild⟩ | ⟨name, ⟨-, more, -, hmore⟩, hmissing⟩
    · -- the directory that the blob is in is below that of the account
      have hlong := congrArg (fun path => path.names.length) (hblob.symm.trans hchild)
      simp only [Path.append_names, Path.child, List.length_append, List.length_cons,
        List.length_nil] at hlong hlength
      omega
    · refine .inr ⟨name, ?_⟩
      have hprefix : (path.child name).names <+: (root.child account.toUTF8).names := by
        refine List.prefix_of_prefix_length_le ?_ haccount ?_
        · rw [hmore]
          exact List.prefix_append _ _
        · rw [Path.child, Path.append_names, List.length_append]
          exact hlength
      have habsolute : (path.child name).isAbsolute = (root.child account.toUTF8).isAbsolute :=
        (congrArg Path.isAbsolute (hblob.symm.trans heq)).symm
      obtain ⟨others, hothers⟩ := Path.exists_append_of_prefix habsolute hprefix
      exact ⟨others, hothers, hmissing⟩

/-- All that a call asks stays below the root. -/
lemma MayAsk.staysWithin {past : Program.Past Request Request.Reply}
    (h : MayAsk root account call past r) (haccount : Name.IsComponent account.toUTF8) :
    StaysWithin root account past r := by
  have hall : IsAddressed call →
      ∀ name ∈ account.toUTF8 :: callNames call, Name.IsComponent name :=
    fun hcall => List.forall_mem_cons.mpr ⟨haccount, hcall⟩
  have hcontainer : ∀ container : String, Name.IsComponent container.toUTF8 →
      root.IsWithin (.ofContainer root account container) := fun container hcontainer =>
    ⟨_, List.cons_ne_nil _ _, rfl,
      List.forall_mem_cons.mpr ⟨haccount, List.forall_mem_singleton.mpr hcontainer⟩⟩
  cases h with
  | find hname => exact .within (hcontainer _ hname)
  | makeDirectory hcall hpath =>
    rcases hpath.isWithin_or (hall hcall) with hwithin | ⟨name, rest, hway, hmissing⟩
    · exact .within hwithin
    · exact .above (.inl rfl) hway hmissing
  | findDirectory hcall hpath =>
    rcases hpath.isWithin_or (hall hcall) with hwithin | ⟨name, rest, hway, hmissing⟩
    · exact .within hwithin
    · exact .above (.inr rfl) hway hmissing
  | create hcall => exact .within ⟨_, List.cons_ne_nil _ _, Path.ofBlob_eq .., hall hcall⟩
  | write hcall => exact .within ⟨_, List.cons_ne_nil _ _, Path.ofBlob_eq .., hall hcall⟩
  | discard hcall => exact .within ⟨_, List.cons_ne_nil _ _, Path.ofBlob_eq .., hall hcall⟩
  | read hcall => exact .within ⟨_, List.cons_ne_nil _ _, Path.ofBlob_eq .., hall hcall⟩
  | remove hcall => exact .within ⟨_, List.cons_ne_nil _ _, Path.ofBlob_eq .., hall hcall⟩
  | @removeDirectory place front rest _ hcall _ _ hnames =>
    have hblob : root.append (account.toUTF8 :: callNames (.deleteBlob place)) =
        ((Path.ofContainer root account place.container).append front).append rest := by
      rw [Path.append_append, ← hnames]
      exact (Path.ofBlob_eq ..).symm
    exact .within (isWithin_of_append (hall hcall) hblob (child_prefix_ofContainer_append ..))
  | readDirectory hcall hmet =>
    exact .found (hcontainer _ (List.forall_mem_singleton.mp hcall)) hmet
  | removeTree hcall => exact .within (hcontainer _ (List.forall_mem_singleton.mp hcall))

/-- Whatever is replied, a call stays below the root, but for directories on the way to that of the
account, each asked for when the one below it was missing. -/
lemma asksAfter_staysWithin (root : Path) (account : String)
    (haccount : Name.IsComponent account.toUTF8) (call : Call)
    (past : Program.Past Request Request.Reply) :
    Program.AsksAfter (StaysWithin root account) ((accountBelow root account).perform call).run
      past :=
  (asksAfter_mayAsk root account call).mono fun _ _ hr => hr.staysWithin haccount

end Within

end ClaimCheck.Disk
