import ClaimCheck.Text.Blank
import ClaimCheck.Web.Domain
import ClaimCheck.Web.Ip
import ClaimCheck.Web.Percent

/-!
# Web addresses

An absolute address is a scheme, a colon and what the scheme makes of the rest.  The schemes of the
web have an authority, with a host and perhaps a port, and a path of segments; of other schemes it is
only checked that an authority, if there is one, is well formed.
-/

namespace ClaimCheck.Web

open Text

/-- Why a text is no address. -/
inductive Address.Fault where
  | noScheme
  | emptyHost
  | invalidPort
  | invalidVersion4
  | invalidVersion6
  | invalidDomain
  | invalidDomainCharacter
deriving DecidableEq, Repr

/-- The wording of a fault. -/
def Address.Fault.message : Address.Fault → String
  | .noScheme => "relative URL without a base"
  | .emptyHost => "empty host"
  | .invalidPort => "invalid port number"
  | .invalidVersion4 => "invalid IPv4 address"
  | .invalidVersion6 => "invalid IPv6 address"
  | .invalidDomain => "invalid international domain name"
  | .invalidDomainCharacter => "invalid domain character"

/-- A host: a domain name in its ASCII form or a numeric address. -/
inductive Host where
  | domain (name : String)
  | numeric
deriving DecidableEq, Repr

/-- An address: of a scheme of the web, with its path segments as they are written, or of another
scheme. -/
inductive Address where
  | web (scheme : String) (host : Host) (port : Option Nat) (segments : List (List Char))
  | other (scheme : String)
deriving DecidableEq, Repr

namespace Address

/-! ### Schemes -/

/-- How a scheme lays out its addresses. -/
inductive Kind where
  | web (defaultPort : Nat)
  | file
  | other
deriving DecidableEq

/-- The kind of a scheme. -/
def kindOf (scheme : List Char) : Kind :=
  match String.ofList scheme with
  | "http" => .web 80
  | "https" => .web 443
  | "ws" => .web 80
  | "wss" => .web 443
  | "ftp" => .web 21
  | "file" => .file
  | _ => .other

/-- Whether a backslash counts as a slash. -/
def Kind.hasBackslash : Kind → Bool
  | .other => false
  | _ => true

/-- Whether a character may stand in a scheme after its first letter. -/
def isSchemeChar (c : Char) : Bool := c.isAlphanum || c == '+' || c == '-' || c == '.'

/-- The scheme, in lower case, and the text after the colon. -/
def splitScheme? (cs : List Char) : Option (List Char × List Char) :=
  match cs, splitFirst? ':' cs with
  | first :: _, some (scheme, rest) =>
    if first.isAlpha ∧ scheme.all isSchemeChar then some (scheme.map Char.toLower, rest) else none
  | _, _ => none

/-! ### Authorities -/

/-- Whether a character ends an authority. -/
def endsAuthority (kind : Kind) (c : Char) : Bool :=
  c == '/' || c == '?' || c == '#' || (kind.hasBackslash && c == '\\')

/-- What stands in front of the host: nothing, an at sign alone, or something before one. -/
inductive User where
  | none
  | empty
  | given (text : List Char)

/-- Cuts off the user in front of the last at sign of an authority. -/
def splitUser (kind : Kind) (cs : List Char) : User × List Char :=
  let authority := cs.takeWhile (!endsAuthority kind ·)
  let beyond := cs.dropWhile (!endsAuthority kind ·)
  match splitFirst? '@' authority.reverse with
  | none => (.none, cs)
  | some (host, []) => (.empty, host.reverse ++ beyond)
  | some (host, user) => (.given user.reverse, host.reverse ++ beyond)

/-- Whether a user has a name or a password; a colon alone has neither. -/
def User.isNamed : User → Bool
  | .given text => text != [':']
  | _ => false

/-- The length of the host at the start of a text: a colon ends it outside of brackets. -/
def hostLength (kind : Kind) : (inBrackets : Bool) → (length : Nat) → List Char → Nat
  | _, length, [] => length
  | inBrackets, length, c :: rest =>
    if endsAuthority kind c || (c == ':' && !inBrackets) then length
    else hostLength kind (if c = '[' then true else if c = ']' then false else inBrackets)
      (length + 1) rest

/-- The host that stands in brackets. -/
def bracketedHost (cs : List Char) : Except Fault Host :=
  if cs.getLast? = some ']' ∧ isVersion6 (cs.drop 1).dropLast then .ok .numeric
  else .error .invalidVersion6

/-- The host of an address of the web. -/
def webHost (cs : List Char) : Except Fault Host :=
  if cs.head? = some '[' then bracketedHost cs
  else
    match (percentDecode? cs).bind Domain.asciiForm? with
    | none => .error .invalidDomain
    | some [] => .error .emptyHost
    | some name =>
      if endsInNumber name then
        if isVersion4 name then .ok .numeric else .error .invalidVersion4
      else .ok (.domain (String.ofList name))

/-- Whether a character may not stand in a host of another scheme. -/
def isForbiddenInHost (c : Char) : Bool :=
  [Char.ofNat 0, '\t', '\n', '\r', ' ', '#', '/', ':', '<', '>', '?', '@', '[', '\\', ']', '^',
    '|'].contains c

/-- The host of an address of another scheme. -/
def plainHost (cs : List Char) : Except Fault Host :=
  if cs.head? = some '[' then bracketedHost cs
  else if cs.any isForbiddenInHost then .error .invalidDomainCharacter
  else .ok (.domain (String.ofList cs))

/-- Reads the digits of a port up to the end of the authority. -/
def readPort (port : Nat) : List Char → Except Fault (Nat × List Char)
  | [] => .ok (port, [])
  | c :: rest =>
    if isDigit c then
      if 65535 < port * 10 + digitValue c then .error .invalidPort
      else readPort (port * 10 + digitValue c) rest
    else if endsAuthority (.web 0) c then .ok (port, c :: rest)
    else .error .invalidPort

/-- A port that has to be named: not the default one, and not one without digits. -/
def namedPort? (kind : Kind) (digits : Bool) (port : Nat) : Option Nat :=
  if !digits || kind == .web port then none else some port

/-- Reads a host and a port. -/
def readHostAndPort (kind : Kind) (user : User) (cs : List Char) :
    Except Fault (Host × Option Nat × List Char) := do
  let length := hostLength kind false 0 cs
  let text := cs.take length
  let rest := cs.drop length
  if text.isEmpty && (kind.hasBackslash || user.isNamed || rest.head? == some ':') then
    throw .emptyHost
  let host ← if kind.hasBackslash then webHost text else plainHost text
  match rest with
  | ':' :: rest =>
    let (port, after) ← readPort 0 rest
    pure (host, namedPort? kind (after.length < rest.length) port, after)
  | rest => pure (host, none, rest)

/-- Reads an authority. -/
def readAuthority (kind : Kind) (cs : List Char) :
    Except Fault (Host × Option Nat × List Char) := do
  let (user, rest) := splitUser kind cs
  match user, rest with
  | .empty, c :: _ => if endsAuthority kind c then throw .emptyHost
  | _, _ => pure ()
  readHostAndPort kind user rest

/-! ### Paths -/

/-- What a segment says about the path before it. -/
inductive Step where
  | stay
  | back
  | down (segment : List Char)

/-- Reads a dot, plain or percent-encoded. -/
def dropDot? : List Char → Option (List Char)
  | '.' :: rest => some rest
  | '%' :: '2' :: e :: rest => if e = 'e' ∨ e = 'E' then some rest else none
  | _ => none

/-- One dot stays, two go back, and anything else goes down. -/
def stepOf (segment : List Char) : Step :=
  match dropDot? segment with
  | some [] => .stay
  | some rest => if dropDot? rest = some [] then .back else .down segment
  | none => .down segment

/-- Whether a segment is a letter with a colon or a bar, which going back does not leave. -/
def isDrive : List Char → Bool
  | [letter, mark] => letter.isAlpha && (mark == ':' || mark == '|')
  | _ => false

/-- Leaves the last segment, which comes first. -/
def goBack : List (List Char) → List (List Char)
  | [] => []
  | last :: before => if isDrive last then last :: before else before

/-- Resolves the segments of a path, `before` holding those that were passed, the last one first.
A last segment that stays or goes back leaves an empty one in its place. -/
def resolveFrom (before : List (List Char)) : List (List Char) → List (List Char)
  | [] => before.reverse
  | [last] =>
    match stepOf last with
    | .stay => ([] :: before).reverse
    | .back => ([] :: goBack before).reverse
    | .down segment => (segment :: before).reverse
  | segment :: rest =>
    match stepOf segment with
    | .stay => resolveFrom before rest
    | .back => resolveFrom (goBack before) rest
    | .down segment => resolveFrom (segment :: before) rest

/-- Whether a character separates segments in an address of the web. -/
def isSlash (c : Char) : Bool := c == '/' || c == '\\'

/-- The segments of the path at the start of a text; a query or a fragment ends it. -/
def readSegments (cs : List Char) : List (List Char) :=
  let path := cs.takeWhile fun c => c ≠ '?' ∧ c ≠ '#'
  let path :=
    match path with
    | [] => []
    | c :: rest => if isSlash c then rest else c :: rest
  resolveFrom [] (piecesBy isSlash path)

/-! ### Addresses -/

/-- Checks the host of a file, if it has one. -/
def checkFileHost (cs : List Char) : Except Fault Unit :=
  match cs with
  | a :: b :: rest =>
    let text := rest.takeWhile (!endsAuthority .file ·)
    if isSlash a && isSlash b && !text.isEmpty && !isDrive text then
      (webHost text).map fun _ => ()
    else .ok ()
  | _ => .ok ()

/-- What a scheme makes of the text after its colon. -/
def ofScheme (scheme rest : List Char) : Except Fault Address := do
  let kind := kindOf scheme
  match kind with
  | .web _ =>
    let (host, port, rest) ← readAuthority kind (rest.dropWhile isSlash)
    pure (web (String.ofList scheme) host port (readSegments rest))
  | .file =>
    checkFileHost rest
    pure (other (String.ofList scheme))
  | .other =>
    match rest with
    | '/' :: '/' :: rest =>
      let _ ← readAuthority kind rest
      pure (other (String.ofList scheme))
    | _ => pure (other (String.ofList scheme))

/-- Drops what may surround an address, and line ends and tabs anywhere in it. -/
def cleaned (text : String) : List Char :=
  (trimBy (fun c => c.toNat ≤ 0x20) text.toList).filter fun c => c ≠ '\t' ∧ c ≠ '\n' ∧ c ≠ '\r'

/-- The address that a text writes. -/
def parse (text : String) : Except Fault Address :=
  match splitScheme? (cleaned text) with
  | none => .error .noScheme
  | some (scheme, rest) => ofScheme scheme rest

end Address

end ClaimCheck.Web
