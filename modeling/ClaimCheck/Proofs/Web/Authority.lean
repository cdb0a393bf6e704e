import Mathlib
import ClaimCheck.Proofs.Text.Pieces
import ClaimCheck.Web.Address

/-!
# Authorities of web addresses

In an address of the web the user before the host does not matter, and a host must not be empty, so
the authority comes down to a host and what stands behind it (`readAuthority_web`).

A question mark or a number sign ends the authority and the path wherever it stands first, so what
follows one is carried along unread (`readAuthority_append`), and the host, the port and the segments
of the path are those of the text before it (`ofScheme_append`).
-/

namespace ClaimCheck.Web.Address

open Text

variable {kind : Kind} {mark : Char} {cs : List Char}

/-! ## Hosts and ports -/

/-- The port behind a host, if there is one, and what follows. -/
def portBehind (kind : Kind) : List Char → Except Fault (Option Nat × List Char)
  | ':' :: rest => (readPort 0 rest).map fun (port, after) =>
      (namedPort? kind (after.length < rest.length) port, after)
  | rest => .ok (none, rest)

/-- A host of the web must not be empty, and its port stands behind it. -/
lemma readHostAndPort_web (port : Nat) (user : User) (cs : List Char) :
    readHostAndPort (.web port) user cs =
      if (cs.take (hostLength (.web port) false 0 cs)).isEmpty then .error .emptyHost
      else (webHost (cs.take (hostLength (.web port) false 0 cs))).bind fun host =>
        (portBehind (.web port) (cs.drop (hostLength (.web port) false 0 cs))).map fun behind =>
          (host, behind) := by
  unfold readHostAndPort
  dsimp only
  cases hempty : (cs.take (hostLength (.web port) false 0 cs)).isEmpty with
  | true => rfl
  | false =>
    change (webHost _ >>= _) = (webHost _).bind _
    cases webHost (cs.take (hostLength (.web port) false 0 cs)) with
    | error fault => rfl
    | ok host =>
      change _ = (portBehind _ _).map _
      generalize cs.drop (hostLength (.web port) false 0 cs) = rest
      change (match rest with
        | ':' :: rest => _
        | rest => _) = _
      unfold portBehind
      split
      · next rest =>
        cases readPort 0 rest with
        | error fault => rfl
        | ok read => rfl
      · rfl

/-- A host of the web is read in the same way whoever stands before it. -/
lemma readHostAndPort_congr (port : Nat) (user user' : User) (cs : List Char) :
    readHostAndPort (.web port) user cs = readHostAndPort (.web port) user' cs := by
  rw [readHostAndPort_web, readHostAndPort_web]

/-- A text that starts with the end of the authority has no host. -/
lemma readHostAndPort_of_endsAuthority {port : Nat} {c : Char} (user : User)
    (hends : endsAuthority (.web port) c = true) (rest : List Char) :
    readHostAndPort (.web port) user (c :: rest) = .error .emptyHost := by
  have hlength : hostLength (.web port) false 0 (c :: rest) = 0 := by
    rw [hostLength, hends, Bool.true_or, if_pos rfl]
  rw [readHostAndPort_web, hlength]
  rfl

/-- The user before a host of the web does not matter. -/
lemma readAuthority_web (port : Nat) (cs : List Char) :
    readAuthority (.web port) cs =
      readHostAndPort (.web port) .none (splitUser (.web port) cs).2 := by
  unfold readAuthority
  generalize splitUser (.web port) cs = parts
  obtain ⟨user, rest⟩ := parts
  cases user with
  | none => rfl
  | given text => exact readHostAndPort_congr port _ _ rest
  | empty =>
    cases rest with
    | nil => exact readHostAndPort_congr port _ _ []
    | cons c rest =>
      -- without a host the fault is the same, whichever of the two checks finds it
      cases hends : endsAuthority (.web port) c with
      | true =>
        rw [readHostAndPort_of_endsAuthority .none hends]
        change (if endsAuthority (.web port) c = true then _ else _) = _
        rw [if_pos hends]
        rfl
      | false =>
        change (if endsAuthority (.web port) c = true then _ else _) = _
        rw [if_neg (Bool.eq_false_iff.mp hends)]
        exact readHostAndPort_congr port _ _ (c :: rest)

/-! ## What a question mark or a number sign opens -/

/-- A character that ends the path of an address and opens its query or its fragment. -/
inductive EndsPath : Char → Prop where
  | query : EndsPath '?'
  | fragment : EndsPath '#'

/-- What is found of the two characters is found of each that ends a path. -/
lemma EndsPath.eq_of_both {p : Char → Bool} {b : Bool} (hmark : EndsPath mark)
    (hquery : p '?' = b) (hfragment : p '#' = b) : p mark = b := by
  cases hmark with
  | query => exact hquery
  | fragment => exact hfragment

/-- Such a character ends an authority as well. -/
lemma EndsPath.endsAuthority (hmark : EndsPath mark) : endsAuthority kind mark = true :=
  hmark.eq_of_both rfl rfl

/-- The user is looked for in the authority only. -/
lemma splitUser_append (hmark : EndsPath mark) (rest : List Char) :
    (splitUser kind (cs ++ mark :: rest)).2 = (splitUser kind cs).2 ++ mark :: rest := by
  have hstop : (!Address.endsAuthority kind mark) = false := by rw [hmark.endsAuthority]; rfl
  unfold splitUser
  dsimp only
  rw [takeWhile_append_of_stop hstop, dropWhile_append_of_stop hstop]
  cases splitFirst? '@' (cs.takeWhile (!Address.endsAuthority kind ·)).reverse with
  | none => rfl
  | some parts =>
    obtain ⟨host, user⟩ := parts
    cases user with
    | nil => exact (List.append_assoc _ _ _).symm
    | cons c user => exact (List.append_assoc _ _ _).symm

/-- A host ends before a question mark or a number sign. -/
lemma hostLength_append (hmark : EndsPath mark) (inBrackets : Bool) (length : Nat)
    (cs rest : List Char) :
    hostLength kind inBrackets length (cs ++ mark :: rest) =
      hostLength kind inBrackets length cs := by
  induction cs generalizing inBrackets length with
  | nil =>
    have hstop : hostLength kind inBrackets length (mark :: rest) = length := by
      rw [hostLength, hmark.endsAuthority, Bool.true_or, if_pos rfl]
    exact hstop
  | cons c cs ih =>
    rw [List.cons_append, hostLength, hostLength]
    split
    · rfl
    · exact ih _ _

/-- A host is no longer than the text that it stands in. -/
lemma hostLength_le (inBrackets : Bool) (length : Nat) (cs : List Char) :
    hostLength kind inBrackets length cs ≤ length + cs.length := by
  induction cs generalizing inBrackets length with
  | nil => exact Nat.le_refl length
  | cons c cs ih =>
    rw [hostLength]
    split
    · exact Nat.le_add_right _ _
    · have hle := ih (if c = '[' then true else if c = ']' then false else inBrackets) (length + 1)
      rw [List.length_cons]
      omega

/-- A port ends before a question mark or a number sign. -/
lemma readPort_append (hmark : EndsPath mark) (port : Nat) (cs rest : List Char) :
    readPort port (cs ++ mark :: rest) =
      (readPort port cs).map fun (port, after) => (port, after ++ mark :: rest) := by
  induction cs generalizing port with
  | nil =>
    have hdigit : isDigit mark = false := hmark.eq_of_both rfl rfl
    have hstop : readPort port (mark :: rest) = .ok (port, mark :: rest) := by
      rw [readPort, hdigit, hmark.endsAuthority]
      rfl
    exact hstop
  | cons c cs ih =>
    rw [List.cons_append, readPort, readPort]
    split
    · split
      · rfl
      · exact ih _
    split
    · rfl
    · rfl

/-- What stands behind a host is read up to a question mark or a number sign. -/
lemma portBehind_append (hmark : EndsPath mark) (cs rest : List Char) :
    portBehind kind (cs ++ mark :: rest) =
      (portBehind kind cs).map fun (port, after) => (port, after ++ mark :: rest) := by
  have hplain : ∀ c more, c ≠ ':' → portBehind kind (c :: more) = .ok (none, c :: more) := by
    intro c more hc
    unfold portBehind
    split
    · next heq => exact absurd (List.cons.inj heq).1 hc
    · rfl
  cases cs with
  | nil =>
    have hcolon : mark ≠ ':' := by
      cases hmark with
      | query => decide
      | fragment => decide
    exact hplain mark rest hcolon
  | cons c cs =>
    by_cases hc : c = ':'
    · subst hc
      have hcolon : ∀ more, portBehind kind (':' :: more) = (readPort 0 more).map fun read =>
          (namedPort? kind (read.2.length < more.length) read.1, read.2) := fun _ => rfl
      rw [List.cons_append, hcolon, hcolon, readPort_append hmark]
      cases readPort 0 cs with
      | error fault => rfl
      | ok read =>
        -- whether the port had digits is told by lengths, and both have grown by the same
        have hlength : (read.2 ++ mark :: rest).length < (cs ++ mark :: rest).length ↔
            read.2.length < cs.length := by
          rw [List.length_append, List.length_append, Nat.add_lt_add_iff_right]
        change Except.ok (namedPort? kind (decide (_ < _)) read.1, _) = _
        rw [decide_eq_decide.mpr hlength]
        rfl
    · rw [List.cons_append, hplain c _ hc, hplain c _ hc]
      rfl

/-- What follows a question mark or a number sign is carried along unread. -/
lemma readHostAndPort_append (hmark : EndsPath mark) (port : Nat) (user : User)
    (cs rest : List Char) :
    readHostAndPort (.web port) user (cs ++ mark :: rest) =
      (readHostAndPort (.web port) user cs).map fun (host, port, after) =>
        (host, port, after ++ mark :: rest) := by
  have hle : hostLength (.web port) false 0 cs ≤ cs.length := by
    simpa using hostLength_le false 0 cs
  rw [readHostAndPort_web, readHostAndPort_web, hostLength_append hmark,
    List.take_append_of_le_length hle, List.drop_append_of_le_length hle, portBehind_append hmark]
  split
  · rfl
  · cases webHost (cs.take (hostLength (.web port) false 0 cs)) with
    | error fault => rfl
    | ok host =>
      change ((portBehind _ _).map _).map _ = ((portBehind _ _).map _).map _
      cases portBehind (.web port) (cs.drop (hostLength (.web port) false 0 cs)) with
      | error fault => rfl
      | ok behind => rfl

/-- What follows a question mark or a number sign is carried along unread. -/
lemma readAuthority_append (hmark : EndsPath mark) (port : Nat) (cs rest : List Char) :
    readAuthority (.web port) (cs ++ mark :: rest) =
      (readAuthority (.web port) cs).map fun (host, port, after) =>
        (host, port, after ++ mark :: rest) := by
  rw [readAuthority_web, readAuthority_web, splitUser_append hmark, readHostAndPort_append hmark]

/-- A path ends before a question mark or a number sign. -/
lemma readSegments_append (hmark : EndsPath mark) (cs rest : List Char) :
    readSegments (cs ++ mark :: rest) = readSegments cs := by
  have hstop : decide (mark ≠ '?' ∧ mark ≠ '#') = false := by
    cases hmark with
    | query => rfl
    | fragment => rfl
  unfold readSegments
  rw [takeWhile_append_of_stop hstop]

/-- An address of the web does not depend on what follows a question mark or a number sign. -/
lemma ofScheme_append (hmark : EndsPath mark) {scheme : List Char} {port : Nat}
    (hkind : kindOf scheme = .web port) (cs rest : List Char) :
    ofScheme scheme (cs ++ mark :: rest) = ofScheme scheme cs := by
  have hslash : isSlash mark = false := hmark.eq_of_both rfl rfl
  unfold ofScheme
  dsimp only
  rw [hkind, dropWhile_append_of_stop hslash]
  dsimp only
  rw [readAuthority_append hmark]
  cases readAuthority (.web port) (cs.dropWhile isSlash) with
  | error fault => rfl
  | ok read =>
    obtain ⟨host, named, after⟩ := read
    change Except.ok (web _ host named (readSegments (after ++ mark :: rest))) = _
    rw [readSegments_append hmark]
    rfl

end ClaimCheck.Web.Address
