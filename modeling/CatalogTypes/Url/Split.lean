import CatalogTypes.Text.Case
import CatalogTypes.Text.Quoted
import CatalogTypes.Url.HostLiteral

/-!
# Parts of a URL

A URL is a scheme, an authority after two slashes, and a path up to a query or a fragment, each of
which may be missing.  Control characters and spaces at its head are passed over, and tabs and line
breaks anywhere.  Any text is a URL unless its authority is at fault.
-/

namespace CatalogTypes

/-- Why a text is no URL. -/
inductive UrlError where
  | misplacedBracket
  | host (fault : Url.HostFault)
  | ambiguous (authority : String)
deriving DecidableEq, Repr

/-- The wording of an error. -/
def UrlError.message : UrlError → String
  | misplacedBracket => "Invalid IPv6 URL"
  | host .notFuture => "IPvFuture address is invalid"
  | host .dotted => "An IPv4 address cannot be in brackets"
  | host (.noAddress h) => Text.quoted h ++ " does not appear to be an IPv4 or IPv6 address"
  | ambiguous a => "netloc '" ++ a ++ "' contains invalid characters under NFKC normalization"

/-- The parts of a URL that name a database. -/
structure Url where
  scheme : String
  authority : List Char
  path : List Char
deriving DecidableEq, Repr

namespace Url

/-! ## Characters -/

/-- A control character or a space. -/
def isLeading (c : Char) : Bool := c.toNat ≤ 0x20

/-- A character that is passed over anywhere. -/
def isPassed (c : Char) : Bool := c = '\t' || c = '\n' || c = '\r'

/-- A character of a scheme. -/
def isSchemeChar (c : Char) : Bool := c.isAlphanum || c = '+' || c = '-' || c = '.'

/-- A character that ends an authority. -/
def endsAuthority (c : Char) : Bool := c = '/' || c = '?' || c = '#'

/-- A character that ends a path. -/
def endsPath (c : Char) : Bool := c = '?' || c = '#'

/-- The code points whose compatibility form holds a delimiter of URLs. -/
def delimiterLookalikes : List Nat :=
  [0x2047, 0x2048, 0x2049, 0x2100, 0x2101, 0x2105, 0x2106, 0x2A74, 0xFE13, 0xFE16, 0xFE55, 0xFE56,
    0xFE5F, 0xFE6B, 0xFF03, 0xFF0F, 0xFF1A, 0xFF1F, 0xFF20]

/-! ## Splitting -/

/-- The text without what is passed over. -/
def cleaned (cs : List Char) : List Char := (cs.dropWhile isLeading).filter (!isPassed ·)

/-- The scheme in lowercase, if there is one, and what follows its colon. -/
def splitScheme (cs : List Char) : String × List Char :=
  let scheme := cs.takeWhile (· ≠ ':')
  match cs.dropWhile (· ≠ ':') with
  | ':' :: rest =>
    if (scheme.head?.map Char.isAlpha).getD false && scheme.all isSchemeChar then
      (Text.lower (String.ofList scheme), rest)
    else ("", cs)
  | _ => ("", cs)

/-- The authority, if there is one, and what follows it. -/
def splitAuthority : List Char → List Char × List Char
  | '/' :: '/' :: rest => (rest.takeWhile (!endsAuthority ·), rest.dropWhile (!endsAuthority ·))
  | cs => ([], cs)

/-! ## Hosts -/

/-- What follows the last `@` of an authority. -/
def hostPart (authority : List Char) : List Char :=
  (authority.reverse.takeWhile (· ≠ '@')).reverse

/-- The text from the first opening bracket on, without the bracket. -/
def fromBracket (part : List Char) : List Char := (part.dropWhile (· ≠ '[')).drop 1

/-- The text between the first opening bracket and the next closing one. -/
def inBrackets (part : List Char) : List Char := (fromBracket part).takeWhile (· ≠ ']')

/-- What follows the bracket that closes the first opening one. -/
def afterBrackets (part : List Char) : List Char :=
  ((fromBracket part).dropWhile (· ≠ ']')).drop 1

/-- The host of an authority as it stands there. -/
def rawHost (authority : List Char) : List Char :=
  let part := hostPart authority
  if part.contains '[' then inBrackets part else part.takeWhile (· ≠ ':')

/-! ## Faults of an authority -/

/-- Whether a host in brackets stands at the head, with nothing but a port after it. -/
def isBracketed (part : List Char) : Bool :=
  part.head? = some '[' && (afterBrackets part).head?.all (· = ':')

/-- The fault of an authority that holds brackets of both kinds, if it has one.  Wherever the
brackets are, its host must be an address. -/
def bracketsFault? (authority : List Char) : Option UrlError :=
  let part := hostPart authority
  if part.contains '[' && !isBracketed part then some .misplacedBracket
  else (bracketFault? (rawHost authority)).map UrlError.host

/-- The fault of an authority, if it has one. -/
def authorityFault? (authority : List Char) : Option UrlError :=
  let bracketed : Option UrlError :=
    match authority.contains '[', authority.contains ']' with
    | true, true => bracketsFault? authority
    | false, false => none
    | _, _ => some .misplacedBracket
  bracketed.or <|
    if authority.any fun c => delimiterLookalikes.contains c.toNat then
      some (.ambiguous (String.ofList authority))
    else none

/-! ## The parts -/

/-- The parts of a URL. -/
def split (cs : List Char) : Except UrlError Url :=
  let (scheme, rest) := splitScheme (cleaned cs)
  let (authority, rest) := splitAuthority rest
  match authorityFault? authority with
  | some fault => .error fault
  | none => .ok { scheme, authority, path := rest.takeWhile (!endsPath ·) }

/-- The host in lowercase apart from its zone; none if it is empty. -/
def host? (u : Url) : Option String :=
  let raw := rawHost u.authority
  if raw.isEmpty then none
  else
    some (Text.lower (String.ofList (raw.takeWhile (· ≠ '%'))) ++
      String.ofList (raw.dropWhile (· ≠ '%')))

end Url

end CatalogTypes
