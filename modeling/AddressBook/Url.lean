import AddressBook.Bytes.Hex
import AddressBook.Text.Encoding
import AddressBook.Url.Host

namespace AddressBook

structure Url where
  scheme : List Char
  authority : List Char
  path : List Char
  query : List Char
  fragment : List Char
  deriving DecidableEq, Repr

inductive UrlError where
  | brackets
  | noAddress (host : List Char)
  | version4
  | futureVersion
  /-- A character of the authority could be taken for a separator. -/
  | lookalike (authority : List Char)
  deriving DecidableEq, Repr

def UrlError.message : UrlError → String
  | .brackets => "Invalid IPv6 URL"
  | .noAddress host =>
    Text.quoted (String.ofList host) ++ " does not appear to be an IPv4 or IPv6 address"
  | .version4 => "An IPv4 address cannot be in brackets"
  | .futureVersion => "IPvFuture address is invalid"
  | .lookalike authority => "netloc '" ++ String.ofList authority ++
      "' contains invalid characters under NFKC normalization"

namespace Url

def isSchemeChar (c : Char) : Bool := c.isAlphanum || c == '+' || c == '-' || c == '.'

/-- Splits off the scheme, in lower case: a letter and more characters in front of a colon. -/
def splitScheme (text : List Char) : List Char × List Char :=
  match cutAt ':' text with
  | (scheme, some rest) =>
    if scheme.head?.any Char.isAlpha ∧ scheme.all isSchemeChar then
      (scheme.map Char.toLower, rest)
    else ([], text)
  | _ => ([], text)

/-- Splits off the authority, which follows two slashes. -/
def splitAuthority (text : List Char) : List Char × List Char :=
  match text with
  | '/' :: '/' :: rest =>
    let inside (c : Char) : Bool := c != '/' && c != '?' && c != '#'
    (rest.takeWhile inside, rest.dropWhile inside)
  | _ => ([], text)

def checkAddress (host : List Char) : Except UrlError Unit :=
  if host.head? == some 'v' then if isFutureVersion host then .ok () else .error .futureVersion
  else if isVersion4 host then .error .version4
  else if isVersion6 host then .ok ()
  else .error (.noAddress host)

/-- The host of an authority without the user in front of it. It may be in brackets, next to which
nothing may stand but a port. -/
def checkBracketed (host : List Char) : Except UrlError Unit :=
  match cutAt '[' host with
  | (_, none) => checkAddress (cutAt ':' host).1
  | (before, some rest) =>
    let (inside, after) := cutAt ']' rest
    let after := after.getD []
    if !before.isEmpty || (after.head?.any (· != ':')) then .error .brackets
    else checkAddress inside

def checkAuthority (authority : List Char) : Except UrlError Unit :=
  if authority.contains '[' != authority.contains ']' then .error .brackets
  else if authority.contains '[' then checkBracketed (cutAtLast '@' authority).2
  else .ok ()

/-- The parts of a URL. Control characters and blanks in front, tabs and line ends anywhere do not
count. -/
def parse (text : List Char) : Except UrlError Url := do
  let text := text.dropWhile fun c => c.toNat ≤ 0x20
  let text := text.filter fun c => c != '\t' && c != '\r' && c != '\n'
  let (scheme, rest) := splitScheme text
  let (authority, rest) := splitAuthority rest
  checkAuthority authority
  if authority.any fun c => separatorLookalikes.contains c.toNat then .error (.lookalike authority)
  else
    let (rest, fragment) := cutAt '#' rest
    let (path, query) := cutAt '?' rest
    return ⟨scheme, authority, path, query.getD [], fragment.getD []⟩

def marked (mark : Char) (part : List Char) : List Char := if part.isEmpty then [] else mark :: part

/-- The text of a URL. An empty part is left out with its mark; the slashes of an authority are
written even without one if `slashes`, and in front of a path that starts with two of its own. -/
def toChars (slashes : Bool) (url : Url) : List Char :=
  let path := if !url.authority.isEmpty || slashes || url.path.take 2 == ['/', '/'] then
    let start := if url.path.isEmpty || url.path.head? == some '/' then [] else ['/']
    '/' :: '/' :: url.authority ++ start ++ url.path
  else url.path
  (if url.scheme.isEmpty then [] else url.scheme ++ [':']) ++ path ++ marked '?' url.query ++
    marked '#' url.fragment

def percentEncoded (byte : UInt8) : List Char :=
  '%' :: [byte.toNat / 16, byte.toNat % 16].map fun digit => (Nat.digitChar digit).toUpper

def isUnreserved (c : Char) : Bool :=
  c.isAlphanum || c == '_' || c == '.' || c == '-' || c == '~'

def percentEncode (kept : List Char) (text : List Char) : List Char :=
  text.flatMap fun c =>
    if isUnreserved c || kept.contains c then [c]
    else (Bytes.ofText (String.singleton c)).flatMap percentEncoded

def percentDecode : Bytes → Bytes
  | 0x25 :: high :: low :: rest =>
    match Bytes.hexValue? (Char.ofNat high.toNat), Bytes.hexValue? (Char.ofNat low.toNat) with
    | some h, some l => UInt8.ofNat (16 * h + l) :: percentDecode rest
    | _, _ => 0x25 :: percentDecode (high :: low :: rest)
  | byte :: rest => byte :: percentDecode rest
  | [] => []

/-- The text that bytes spell, what is not UTF-8 being replaced. -/
def lossyText (bytes : Bytes) : List Char :=
  match bytes with
  | [] => []
  | first :: rest =>
    match Text.utf8Lead first rest with
    | .character n length => Text.charOf n :: lossyText (rest.drop (length - 1))
    | .bad length _ => Text.replacement :: lossyText (rest.drop (length - 1))
termination_by bytes.length
decreasing_by all_goals simp only [List.length_drop, List.length_cons]; omega

def percentDecoded (text : List Char) : List Char :=
  lossyText (percentDecode (Bytes.ofText (String.ofList text)))

end Url
end AddressBook
