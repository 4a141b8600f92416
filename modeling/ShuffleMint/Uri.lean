import ShuffleMint.Failure
import ShuffleMint.Uri.DomainCharacter
import ShuffleMint.Uri.DomainName
import ShuffleMint.Uri.Ipv4
import ShuffleMint.Uri.Ipv6

/-!
# URIs

Where a text fails to be a URI it does so in its scheme or in its authority: the host and the port.
Path, query and fragment never make it fail. Nothing is kept but the scheme, which is all that is
asked of a URI here.
-/

namespace ShuffleMint

namespace Uri

/-- The kinds of schemes. Web schemes always have an authority, files may name a host. -/
inductive SchemeKind where
  | web
  | file
  | other
  deriving DecidableEq

/-- The kind of a scheme in lower case. -/
def kind (scheme : String) : SchemeKind :=
  if ["http", "https", "ws", "wss", "ftp"].contains scheme then .web
  else if scheme = "file" then .file
  else .other

/-- The characters of a text that count: blanks and control characters at both ends do not, nor do
tabs and line ends anywhere. -/
def significant (s : String) : List Char :=
  let blank (c : Char) : Bool := c.toNat ≤ 32
  let trimmed := (((s.toList.dropWhile blank).reverse).dropWhile blank).reverse
  trimmed.filter fun c => c.toNat ≠ 9 && c.toNat ≠ 10 && c.toNat ≠ 13

/-- An ASCII letter. -/
def isLetter (c : Char) : Bool := ('a' ≤ c && c ≤ 'z') || ('A' ≤ c && c ≤ 'Z')

/-- A character of a scheme after its first letter. -/
def isSchemeChar (c : Char) : Bool :=
  isLetter c || ('0' ≤ c && c ≤ '9') || c == '+' || c == '-' || c == '.'

/-- The scheme in lower case, and what follows its colon. -/
def scheme? (cs : List Char) : Option (String × List Char) :=
  let name := cs.takeWhile isSchemeChar
  match name, cs.drop name.length with
  | first :: _, ':' :: rest =>
    if isLetter first then some (String.ofList (name.map DomainCharacter.lower), rest) else none
  | _, _ => none

/-- Whether a character ends an authority. The backslash does so where the scheme is a web scheme. -/
def endsAuthority (web : Bool) (c : Char) : Bool :=
  c == '/' || c == '?' || c == '#' || (web && c == '\\')

/-- What stands before the last at-sign of an authority, where there is one, and what stands after
it. -/
def splitUserinfo (cs : List Char) : Option (List Char) × List Char :=
  let hostSide := (cs.reverse.takeWhile (· != '@')).reverse
  if hostSide.length = cs.length then (none, cs)
  else (some (cs.take (cs.length - hostSide.length - 1)), hostSide)

/-- The characters up to the colon that starts a port. A colon in square brackets starts none. -/
def hostChars (inBrackets : Bool) : List Char → List Char
  | [] => []
  | c :: cs =>
    if c = ':' ∧ !inBrackets then []
    else c :: hostChars (if c = '[' then true else if c = ']' then false else inBrackets) cs

/-- Refuses the inside of square brackets that is no IPv6 address. -/
def validateBrackets (inside : List Char) : Except UriFault Unit :=
  if inside.getLast? = some ']' ∧ Ipv6.isAddress inside.dropLast then .ok () else .error .ipv6

/-- Refuses the host of a web scheme or a file that is no address and no domain name. -/
def validateHost (host : List Char) : Except UriFault Unit :=
  match host with
  | '[' :: inside => validateBrackets inside
  | _ =>
    match DomainName.ofHost? (String.ofList host) with
    | none => .error .internationalName
    | some [] => .error .emptyHost
    | some name =>
      let labels := DomainName.labels name
      if Ipv4.isCandidate labels && !Ipv4.isAddress labels then .error .ipv4 else .ok ()

/-- A character that stands in no host of a scheme that is neither a web scheme nor `file`. -/
def isForbiddenOpaque (c : Char) : Bool :=
  [0, 9, 10, 13, 32].contains c.toNat || "#/:<>?@[\\]^|".toList.contains c

/-- Refuses the host of any other scheme: it is an IPv6 address, or free of some characters. -/
def validateOpaqueHost (host : List Char) : Except UriFault Unit :=
  match host with
  | '[' :: inside => validateBrackets inside
  | _ => if host.any isForbiddenOpaque then .error .domainCharacter else .ok ()

/-- Refuses a port that is not made of digits or is past the last port. -/
def validatePort (cs : List Char) : Except UriFault Unit :=
  let digits := cs.takeWhile fun c => '0' ≤ c && c ≤ '9'
  if digits.foldl (fun n c => 10 * n + (c.toNat - 48)) 0 ≤ 65535 then
    match cs.drop digits.length with
    | [] => .ok ()
    | '\\' :: _ => .ok ()
    | _ :: _ => .error .port
  else .error .port

/-- Whether a user or a password is given: anything but nothing and a lone colon. -/
def namesUser : Option (List Char) → Bool
  | none => false
  | some [] => false
  | some [':'] => false
  | some _ => true

/-- Refuses what follows the slashes of an authority where it is none. -/
def validateAuthority (web : Bool) (cs : List Char) : Except UriFault Unit := do
  let authority := cs.takeWhile fun c => !endsAuthority web c
  let (user, rest) := splitUserinfo authority
  let more := !(cs.drop authority.length).isEmpty
  if user = some [] ∧ rest = [] ∧ more then .error .emptyHost
  else
    let host := hostChars false rest
    if host.isEmpty ∧ web then .error .emptyHost
    else
      if web then validateHost host else validateOpaqueHost host
      match rest.drop host.length with
      | ':' :: port =>
        if host.isEmpty then .error .emptyHost else validatePort port
      | _ => .ok ()
      if host.isEmpty ∧ namesUser user then .error .emptyHost else .ok ()

/-- Whether a host of a file is the letter of a drive. -/
def isDrive (cs : List Char) : Bool :=
  match cs with
  | [letter, mark] => isLetter letter && (mark == ':' || mark == '|')
  | _ => false

/-- Refuses what follows the scheme of a file where its host is none. -/
def validateFile (cs : List Char) : Except UriFault Unit :=
  match cs with
  | a :: b :: rest =>
    if (a = '/' ∨ a = '\\') ∧ (b = '/' ∨ b = '\\') then
      let host := rest.takeWhile fun c => !endsAuthority true c
      if host.isEmpty ∨ isDrive host then .ok () else validateHost host
    else .ok ()
  | _ => .ok ()

/-- The scheme of a URI in lower case. -/
def scheme (s : String) : Except UriFault String :=
  match scheme? (significant s) with
  | none => .error .relative
  | some (name, rest) => do
    match kind name with
    | .web => validateAuthority true (rest.dropWhile fun c => c == '/' || c == '\\')
    | .file => validateFile rest
    | .other =>
      match rest with
      | '/' :: '/' :: authority => validateAuthority false authority
      | _ => .ok ()
    return name

end Uri

end ShuffleMint
