import Mathlib
import ClaimCheck.Proofs.Disk.Asked
import ClaimCheck.Proofs.Disk.Refinement
import ClaimCheck.Proofs.Disk.Spots

/-!
# Calls stay in the directory of their container

What a call to a store on disk may ask is known from its names.  `MayChange` lists what it may change
in a file system, location by location, whatever stands there: directories that were missing are made,
a file is made where nothing was, and what is taken away is below the container.  Each request keeps
to that (`DiffersBy`), and so does the call.

Names that are not made of components are refused before anything is changed
(`run_perform_of_not_isAddressed`).  Together this is what it means that a store is confined
(`IsConfined`, `connect_confined`).
-/

namespace ClaimCheck.Disk

open Store Text

/-! ## What calls may change -/

/-- The changes that a call to the store of an account below a root may make at a location of a file
system: what was seen there before and what is seen after. -/
inductive MayChange (m : Machine) (root : Path) (account : String) :
    Call → Location → Option (Node ByteArray) → Option (Node ByteArray) → Prop
  | makeDirectory {place : Locator} {data : ByteArray} {path : Path}
      (hpath : path.IsAncestor (.ofBlob root account place)) :
      MayChange m root account (.put place data) (m.spot path) none (some .directory)
  | make {place : Locator} {data content : ByteArray} :
      MayChange m root account (.put place data) (m.spot (.ofBlob root account place)) none
        (some (.file content))
  | remove {place : Locator} {content : ByteArray} :
      MayChange m root account (.deleteBlob place) (m.spot (.ofBlob root account place))
        (some (.file content)) none
  | removeDirectory {place : Locator} {front rest : List Name} (hfront : front ≠ []) (hrest : rest ≠ [])
      (hnames : pieceNames place.name = front ++ rest) :
      MayChange m root account (.deleteBlob place)
        (m.spot (.ofContainer root account place.container) ++ front) (some .directory) none
  | removeTree {container : String} {rest : Location} {node : Node ByteArray} :
      MayChange m root account (.deleteContainer container)
        (m.spot (.ofContainer root account container) ++ rest) (some node) none

/-- What a blob by names that are not all components is refused with where its container is looked for
before its own name is read. -/
def lateRefusal (found : Except Fault Bool) (place : Locator) : Store.Fault :=
  if isEntryName place.container then
    match found with
    | .ok true => .invalidName .blob place.name
    | .ok false => .containerNotFound place.container
    | .error fault => .disk fault
  else .invalidName .container place.container

/-- What a call with names that are not all components is refused with. -/
def refusal (found : Except Fault Bool) : Call → Store.Fault
  | .put place _ =>
    if isEntryName place.container then .invalidName .blob place.name
    else .invalidName .container place.container
  | .get place => lateRefusal found place
  | .deleteBlob place => lateRefusal found place
  | .list container => .invalidName .container container
  | .deleteContainer container => .invalidName .container container

/-- A call to a store that stays in the directories of its names below a root. -/
structure IsConfined (root : Path) (account : String) (a : Account) (call : Call) : Prop where
  /-- Whatever is replied, only what the call may ask is asked. -/
  asks : Program.AsksAfter (MayAsk root account call) (a.perform call).run []
  /-- Nothing is asked outside the root, but for directories on the way to that of the account, each
  when the one below it was missing. -/
  staysWithin : Program.AsksAfter (StaysWithin root account) (a.perform call).run []
  /-- Whatever file system answers, only what the call may change is seen to change in it. -/
  changes : ∀ (m : Machine) (location : Location),
    (m.run (a.perform call).run).2.tree.peek location = m.tree.peek location ∨
      MayChange m root account call location (m.tree.peek location)
        ((m.run (a.perform call).run).2.tree.peek location)
  /-- Names that are not components are refused, and then nothing is changed at all. -/
  refuses : ¬IsAddressed call → ∀ m : Machine, m.run (a.perform call).run =
    (.error (refusal (m.isThere (.ofContainer root account call.container)) call), m)

/-! ## Names that are refused -/

section Refusing

variable {m : Machine} {root : Path} {account container : String} {place : Locator}

/-- A blob's name is refused where that of its container is accepted and not all are components. -/
lemma segments_of_not_components (hname : isEntryName place.container = true)
    (h : ¬∀ name ∈ place.container.toUTF8 :: pieceNames place.name, Name.IsComponent name) :
    Account.segments place.name = .error (.invalidName .blob place.name) := by
  refine (segments_eq place.name).2 fun hpieces => h ?_
  exact List.forall_mem_cons.mpr ⟨Name.isComponent_toUTF8_iff.mpr hname, hpieces⟩

/-- A blob in a container that is looked for first is refused by its names. -/
lemma run_presentContainer_segments {α : Type}
    (h : ¬∀ name ∈ place.container.toUTF8 :: pieceNames place.name, Name.IsComponent name)
    (g : Path → List Name → Attempt α) :
    m.run (do
        let path ← (accountBelow root account).presentContainer place.container
        let names ← liftM (Account.segments place.name)
        g path names : Attempt α).run =
      (.error (lateRefusal (m.isThere (.ofContainer root account place.container)) place), m) := by
  rw [Machine.run_attempt_bind]
  unfold lateRefusal
  by_cases hname : isEntryName place.container = true
  · have hpath : (accountBelow root account).root.append [place.container.toUTF8] =
        .ofContainer root account place.container := Path.append_append ..
    rw [run_presentContainer_accepted m _ hname, hpath, if_pos hname]
    rcases m.isThere (.ofContainer root account place.container) with fault | there | there
    · rfl
    · rfl
    · dsimp only
      rw [Machine.run_attempt_bind, Machine.run_liftM, segments_of_not_components hname h]
  · rw [run_presentContainer_refused m _ hname, if_neg hname]

/-- Names that are not components are refused. -/
lemma run_perform_of_not_isAddressed {call : Call} (hcall : ¬IsAddressed call) (m : Machine) :
    m.run ((accountBelow root account).perform call).run =
      (.error (refusal (m.isThere (.ofContainer root account call.container)) call), m) := by
  have hsingle : ∀ container : String, ¬(∀ name ∈ [container.toUTF8], Name.IsComponent name) →
      ¬isEntryName container = true := fun container h hname =>
    h (List.forall_mem_singleton.mpr (Name.isComponent_toUTF8_iff.mpr hname))
  cases call with
  | put place data =>
    change m.run ((accountBelow root account).put place data).run =
      (.error (if isEntryName place.container then .invalidName .blob place.name
        else .invalidName .container place.container), m)
    unfold Account.put
    rw [Machine.run_attempt_bind, Machine.run_liftM, containerPath_below]
    by_cases hname : isEntryName place.container = true
    · rw [if_pos hname, if_pos hname]
      dsimp only
      rw [Machine.run_attempt_bind, Machine.run_liftM, segments_of_not_components hname hcall]
    · rw [if_neg hname, if_neg hname]
  | get place => exact run_presentContainer_segments hcall _
  | deleteBlob place => exact run_presentContainer_segments hcall _
  | list container =>
    change m.run ((accountBelow root account).list container).run = _
    unfold Account.list
    rw [Machine.run_attempt_bind, run_presentContainer_refused m _ (hsingle container hcall)]
    rfl
  | deleteContainer container =>
    change m.run ((accountBelow root account).deleteContainer container).run = _
    unfold Account.deleteContainer
    rw [Machine.run_attempt_bind, Machine.run_liftM, containerPath_below,
      if_neg (hsingle container hcall)]
    rfl

end Refusing

/-! ## What calls change -/

section Changing

variable {m s : Machine} {root : Path} {account : String} {call : Call} {place : Locator}
  {data : ByteArray} {r : Request}

/-- What is seen to change in a file system from one state to another is what a call may change. -/
def DiffersBy (root : Path) (account : String) (call : Call) (m s : Machine) : Prop :=
  s.here = m.here ∧ ∀ location, s.tree.peek location = m.tree.peek location ∨
    MayChange m root account call location (m.tree.peek location) (s.tree.peek location)

/-- Nothing has changed at first. -/
lemma DiffersBy.refl (root : Path) (account : String) (call : Call) (m : Machine) :
    DiffersBy root account call m m := ⟨rfl, fun _ => .inl rfl⟩

/-- What was changed for a put is there. -/
lemma DiffersBy.of_peek_none (h : DiffersBy root account (.put place data) m s)
    {location : Location} (hnone : s.tree.peek location = none) :
    m.tree.peek location = none := by
  rcases h.2 location with hsame | hchange
  · rw [← hsame, hnone]
  · rw [hnone] at hchange
    generalize m.tree.peek location = before at hchange
    cases hchange

/-- What was changed for a deletion of a blob is not there any more. -/
lemma DiffersBy.of_peek_some (h : DiffersBy root account (.deleteBlob place) m s)
    {location : Location} {node : Node ByteArray} (hsome : s.tree.peek location = some node) :
    m.tree.peek location = some node := by
  rcases h.2 location with hsame | hchange
  · rw [← hsame, hsome]
  · rw [hsome] at hchange
    generalize m.tree.peek location = before at hchange
    cases hchange

/-- Directories and a new file are made where nothing was. -/
lemma DiffersBy.create (h : DiffersBy root account (.put place data) m s) {path : Path}
    {t : Tree ByteArray} (hleaf : ∀ rest ≠ [], t.peek rest = none)
    (hmay : MayChange m root account (.put place data) (m.spot path) none (some t.node))
    (hhere : (s.create path t).2.here = s.here) :
    DiffersBy root account (.put place data) m (s.create path t).2 := by
  refine ⟨hhere.trans h.1, fun location => ?_⟩
  rcases Machine.peek_create s path hleaf location with hsame | ⟨rfl, hnone, hmade⟩
  · rw [hsame]
    exact h.2 location
  · rw [hmade, h.of_peek_none hnone, Machine.spot_of_here h.1]
    exact .inr hmay

/-- A file that was made is written and removed again. -/
lemma DiffersBy.answer_made (h : DiffersBy root account (.put place data) m s)
    (hnew : m.tree.peek (m.spot (.ofBlob root account place)) = none)
    (hr : r = .write (.ofBlob root account place) data ∨ r = .remove (.ofBlob root account place)) :
    DiffersBy root account (.put place data) m (Machine.answer r s).2 := by
  refine ⟨(Machine.here_answer r s).trans h.1, fun location => ?_⟩
  rcases hr with rfl | rfl
  · change (s.write _ data).2.tree.peek location = _ ∨ MayChange _ _ _ _ _ _
      ((s.write _ data).2.tree.peek location)
    rcases Machine.peek_write s (.ofBlob root account place) data location with
      hsame | ⟨rfl, -, new, hfile⟩
    · rw [hsame]
      exact h.2 location
    · rw [hfile, Machine.spot_of_here h.1, hnew]
      exact .inr .make
  · change (s.takeAway _ _).2.tree.peek location = _ ∨ MayChange _ _ _ _ _ _
      ((s.takeAway _ _).2.tree.peek location)
    rcases Machine.peek_remove s (.ofBlob root account place) location with
      hsame | ⟨rfl, -, hnone⟩
    · rw [hsame]
      exact h.2 location
    · rw [hnone, Machine.spot_of_here h.1, hnew]
      exact .inl rfl

/-- What a deletion of a blob asks changes what it may. -/
lemma DiffersBy.answer_deleteBlob (h : DiffersBy root account (.deleteBlob place) m s)
    {past : Program.Past Request Request.Reply}
    (hr : MayAsk root account (.deleteBlob place) past r) :
    DiffersBy root account (.deleteBlob place) m (Machine.answer r s).2 := by
  refine ⟨(Machine.here_answer r s).trans h.1, fun location => ?_⟩
  cases hr with
  | find _ => exact h.2 location
  | remove _ =>
    change (s.takeAway _ _).2.tree.peek location = _ ∨ MayChange _ _ _ _ _ _
      ((s.takeAway _ _).2.tree.peek location)
    rcases Machine.peek_remove s (.ofBlob root account place) location with
      hsame | ⟨rfl, ⟨content, hfile⟩, hnone⟩
    · rw [hsame]
      exact h.2 location
    · rw [hnone, h.of_peek_some hfile, Machine.spot_of_here h.1]
      exact .inr .remove
  | @removeDirectory _ front rest _ hcall hfront hrest hnames =>
    change (s.takeAway _ _).2.tree.peek location = _ ∨ MayChange _ _ _ _ _ _
      ((s.takeAway _ _).2.tree.peek location)
    have hplain : ∀ name ∈ front, name.IsPlain := by
      intro name hname
      refine (hcall name (List.mem_cons_of_mem _ ?_)).isPlain
      rw [hnames]
      exact List.mem_append_left _ hname
    rcases Machine.peek_removeDirectory s
      ((Path.ofContainer root account place.container).append front) location with
      hsame | ⟨rfl, hdir, hnone⟩
    · rw [hsame]
      exact h.2 location
    · rw [hnone, h.of_peek_some hdir, Machine.spot_of_here h.1, Machine.spot_append _ _ hplain]
      exact .inr (.removeDirectory hfront hrest hnames)

/-- What a deletion of a container asks changes what it may. -/
lemma DiffersBy.answer_deleteContainer {container : String}
    (h : DiffersBy root account (.deleteContainer container) m s)
    {past : Program.Past Request Request.Reply}
    (hr : MayAsk root account (.deleteContainer container) past r) :
    DiffersBy root account (.deleteContainer container) m (Machine.answer r s).2 := by
  refine ⟨(Machine.here_answer r s).trans h.1, fun location => ?_⟩
  cases hr with
  | find _ => exact h.2 location
  | removeTree _ =>
    change (s.takeAway _ _).2.tree.peek location = _ ∨ MayChange _ _ _ _ _ _
      ((s.takeAway _ _).2.tree.peek location)
    rcases Machine.peek_takeAway s (.ofContainer root account container)
      Machine.againstRemoveTree location with hsame | ⟨⟨rest, rfl⟩, hnone, -⟩
    · rw [hsame]
      exact h.2 location
    · rw [hnone, Machine.spot_of_here h.1]
      cases m.tree.peek (m.spot (.ofContainer root account container) ++ rest) with
      | none => exact .inl rfl
      | some node => exact .inr .removeTree

/-- Making the directories on the way to a blob changes what a put may. -/
lemma differsBy_makeDirectories (m : Machine) (root : Path) (account : String) (place : Locator)
    (data : ByteArray) :
    DiffersBy root account (.put place data) m
      (m.run (makeDirectories ((Path.ofContainer root account place.container).append
        (pieceNames place.name).dropLast))).2 := by
  have hasks : Program.AsksOnly (fun r : Request => ∃ path : Path,
      path.IsAncestor (.ofBlob root account place) ∧
        (r = .makeDirectory path ∨ r = .isDirectory path))
      (makeDirectories ((Path.ofContainer root account place.container).append
        (pieceNames place.name).dropLast)) :=
    asksOnly_makeUpTo fun front hfront hstart =>
      ⟨⟨_, isAncestor_of_prefix hfront hstart, .inl rfl⟩,
        ⟨_, isAncestor_of_prefix hfront hstart, .inr rfl⟩⟩
  refine hasks.keeps (fun r s hr hs => ?_) (.refl root account _ m)
  obtain ⟨path, hancestor, rfl | rfl⟩ := hr
  · exact hs.create (fun rest => Tree.peek_empty_of_ne) (.makeDirectory hancestor)
      (Machine.here_answer (.makeDirectory path) s)
  · exact hs

/-- A put changes what it may: once the new file is there, nothing was there before. -/
lemma differsBy_put (m : Machine) (root : Path) (account : String) (place : Locator)
    (data : ByteArray) :
    DiffersBy root account (.put place data) m
      (m.run ((accountBelow root account).put place data).run).2 := by
  by_cases hcall : IsAddressed (.put place data)
  · obtain ⟨hcontainer, hpieces⟩ := List.forall_mem_cons.mp hcall
    have hname := Name.isComponent_toUTF8_iff.mp hcontainer
    have hsegments := (segments_eq place.name).1 hpieces
    have hblob : (accountBelow root account).root.append
        (place.container.toUTF8 :: pieceNames place.name) = .ofBlob root account place :=
      (Path.append_append ..).trans (Path.ofBlob_eq ..).symm
    have hway : (accountBelow root account).root.append
        (place.container.toUTF8 :: (pieceNames place.name).dropLast) =
          (Path.ofContainer root account place.container).append (pieceNames place.name).dropLast :=
      (Path.append_append ..).trans
        (Path.append_append root [account.toUTF8, place.container.toUTF8] _).symm
    have hmade := differsBy_makeDirectories m root account place data
    rw [← hway] at hmade
    rcases hmake : m.run (makeDirectories ((accountBelow root account).root.append
      (place.container.toUTF8 :: (pieceNames place.name).dropLast))) with ⟨fault | ⟨⟩, m₁⟩
    · rw [run_put_of_not_made hname hsegments hmake data]
      rwa [hmake] at hmade
    · rw [hmake] at hmade
      rw [run_put_of_made hname hsegments hmake data, hblob]
      have hcreated := hmade.create (fun rest => Tree.peek_file_of_ne ByteArray.empty) .make
        (Machine.here_answer (.createNew (.ofBlob root account place)) m₁)
      rcases hcreate : m₁.create (.ofBlob root account place) (.file ByteArray.empty) with
        ⟨fault | ⟨⟩, m₂⟩
      · rwa [hcreate] at hcreated
      · have hnew : m.tree.peek (m.spot (.ofBlob root account place)) = none := by
          rw [← Machine.spot_of_here hmade.1]
          exact hmade.of_peek_none (Machine.peek_spot_of_create (congrArg Prod.fst hcreate))
        rw [hcreate] at hcreated
        have hwritten := hcreated.answer_made hnew (.inl rfl)
        change DiffersBy root account _ m (m₂.write (.ofBlob root account place) data).2 at hwritten
        dsimp only
        rcases hwrite : m₂.write (.ofBlob root account place) data with ⟨fault | ⟨⟩, m₃⟩
        · rw [hwrite] at hwritten
          exact hwritten.answer_made hnew (.inr rfl)
        · rwa [hwrite] at hwritten
  · have hrun : m.run ((accountBelow root account).put place data).run =
        (.error (refusal (m.isThere (.ofContainer root account place.container))
          (.put place data)), m) :=
      run_perform_of_not_isAddressed hcall m
    rw [hrun]
    exact .refl root account _ m

/-- Whatever file system answers, a call changes in it what it may. -/
lemma differsBy_perform (m : Machine) (root : Path) (account : String) (call : Call) :
    DiffersBy root account call m (m.run ((accountBelow root account).perform call).run).2 := by
  have hasks : Program.AsksAfter _ _ [] := asksAfter_mayAsk root account call
  cases call with
  | put place data => exact differsBy_put m root account place data
  | get place =>
    refine hasks.keeps (fun _ r s hr hs => ?_) (.refl root account _ m)
    cases hr <;> exact hs
  | deleteBlob place =>
    exact hasks.keeps (fun _ r s hr hs => hs.answer_deleteBlob hr) (.refl root account _ m)
  | list container =>
    refine hasks.keeps (fun _ r s hr hs => ?_) (.refl root account _ m)
    cases hr <;> exact hs
  | deleteContainer container =>
    exact hasks.keeps (fun _ r s hr hs => hs.answer_deleteContainer hr) (.refl root account _ m)

end Changing

/-! ## Confinement -/

/-- A call to the store of an account below a root stays in the directories of its names. -/
lemma isConfined_accountBelow (root : Path) {account : String}
    (haccount : Name.IsComponent account.toUTF8) (call : Call) :
    IsConfined root account (accountBelow root account) call where
  asks := asksAfter_mayAsk root account call
  staysWithin := asksAfter_staysWithin root account haccount call []
  changes m := (differsBy_perform m root account call).2
  refuses := run_perform_of_not_isAddressed

/-- Whatever texts name accounts, containers and blobs, a store below a root is opened only for an
account that is a component, each call to it stays in the directories of its names, and no two blobs
have one path or, where their names are accepted, lead to one location. -/
theorem connect_confined (root : Path) (endpoint : Endpoint) (credential : Identity.Credential)
    (now : Instant) :
    (¬Name.IsComponent endpoint.account.toUTF8 →
      Account.connect root endpoint credential now =
        .error (if credential.isExpiredAt now then .accessDenied .expired endpoint
          else .invalidName .account endpoint.account)) ∧
    (∀ a, Account.connect root endpoint credential now = .ok a →
      Name.IsComponent endpoint.account.toUTF8 ∧ ∀ call, IsConfined root endpoint.account a call) ∧
    (∀ account other place place', Path.ofBlob root account place = Path.ofBlob root other place' →
      account = other ∧ place = place') ∧
    ∀ (m : Machine) (account other : String) (place place' : Locator),
      (∀ name ∈ account.toUTF8 :: callNames (.get place), Name.IsComponent name) →
      (∀ name ∈ other.toUTF8 :: callNames (.get place'), Name.IsComponent name) →
      m.spot (Path.ofBlob root account place) = m.spot (Path.ofBlob root other place') →
        account = other ∧ place = place' := by
  refine ⟨fun haccount => ?_, fun a hconnect => ?_, fun account other place place' heq => ?_,
    fun m account other place place' h h' heq => ?_⟩
  · rw [Name.isComponent_toUTF8_iff] at haccount
    unfold Account.connect
    split
    · rfl
    · rfl
  · unfold Account.connect at hconnect
    split at hconnect
    · cases hconnect
    split at hconnect
    · next hname =>
      cases hconnect
      have haccount := Name.isComponent_toUTF8_iff.mpr hname
      exact ⟨haccount, isConfined_accountBelow root haccount⟩
    · cases hconnect
  · rw [Path.ofBlob_eq, Path.ofBlob_eq] at heq
    exact eq_of_blobNames (List.append_cancel_left (congrArg Path.names heq))
  · have hspot := Machine.spot_append m root fun name hname => (h name hname).isPlain
    have hspot' := Machine.spot_append m root fun name hname => (h' name hname).isPlain
    rw [Path.ofBlob_eq, Path.ofBlob_eq] at heq
    exact eq_of_blobNames (List.append_cancel_left (hspot.symm.trans (heq.trans hspot')))

/-- A credential that is good for a while. -/
def freshCredential : Identity.Credential := ⟨.ambient, "token", ⟨100, 0⟩⟩

/-- A blob whose name would lead out of its container and of the account. -/
def strayPlace : Locator := ⟨"c", "a/../../../x"⟩

/-- A blob whose name would lead elsewhere is not put anywhere. -/
theorem stray_name_refused :
    Account.connect ⟨true, [serverName]⟩ ⟨"stairlock", "core.windows.net"⟩ freshCredential ⟨0, 0⟩ =
      .ok (accountBelow ⟨true, [serverName]⟩ "stairlock") ∧
    IsConfined ⟨true, [serverName]⟩ "stairlock" (accountBelow ⟨true, [serverName]⟩ "stairlock")
      (.put strayPlace "1".toUTF8) ∧
    emptyServer.run ((accountBelow ⟨true, [serverName]⟩ "stairlock").perform
      (.put strayPlace "1".toUTF8)).run = (.error (.invalidName .blob "a/../../../x"), emptyServer) := by
  have hconnect : Account.connect ⟨true, [serverName]⟩ ⟨"stairlock", "core.windows.net"⟩
      freshCredential ⟨0, 0⟩ = .ok (accountBelow ⟨true, [serverName]⟩ "stairlock") := rfl
  have hconfined := ((connect_confined ⟨true, [serverName]⟩ ⟨"stairlock", "core.windows.net"⟩
    freshCredential ⟨0, 0⟩).2.1 _ hconnect).2 (.put strayPlace "1".toUTF8)
  have hstray : ¬IsAddressed (.put strayPlace "1".toUTF8) := by
    intro h
    have hparent : Name.parent ∈ pieceNames strayPlace.name :=
      List.mem_map.mpr ⟨['.', '.'], by decide +kernel, rfl⟩
    exact (h Name.parent (List.mem_cons_of_mem _ hparent)).isPlain.2 rfl
  exact ⟨hconnect, hconfined, hconfined.refuses hstray emptyServer⟩

/-- A root in a directory that may be missing. -/
def nestedRoot : Path := ⟨false, [Name.ofChars ['x'], Name.ofChars ['y']]⟩

/-- The directory that it is in. -/
def aboveRoot : Path := ⟨false, [Name.ofChars ['x']]⟩

/-- Where nothing is yet, a put makes the directory that its root is in, which is outside the root. -/
theorem above_root_made :
    Account.connect nestedRoot ⟨"stairlock", "core.windows.net"⟩ freshCredential ⟨0, 0⟩ =
      .ok (accountBelow nestedRoot "stairlock") ∧
    aboveRoot ≠ nestedRoot ∧ ¬nestedRoot.IsWithin aboveRoot ∧
    Request.makeDirectory aboveRoot ∈ ((accountBelow nestedRoot "stairlock").perform
      (.put ⟨"c", "b"⟩ "1".toUTF8)).run.asked Machine.answer {} ∧
    ∃ m, ({} : Machine).run ((accountBelow nestedRoot "stairlock").perform
      (.put ⟨"c", "b"⟩ "1".toUTF8)).run = (.ok (), m) ∧
      m.tree.peek aboveRoot.names = some .directory := by
  have hput : (({} : Machine).run ((accountBelow nestedRoot "stairlock").perform
      (.put ⟨"c", "b"⟩ "1".toUTF8)).run).1 = .ok () := by decide +kernel
  have hasked : (((accountBelow nestedRoot "stairlock").perform
      (.put ⟨"c", "b"⟩ "1".toUTF8)).run.asked Machine.answer {})[3]? =
        some (.makeDirectory aboveRoot) := by cbv
  refine ⟨rfl, by decide +kernel, ?_, List.mem_of_getElem? hasked, _, Prod.ext hput rfl, by cbv⟩
  rintro ⟨names, -, hpath, -⟩
  have hlength := congrArg (fun path : Path => path.names.length) hpath
  simp [aboveRoot, nestedRoot, Path.append] at hlength

end ClaimCheck.Disk
