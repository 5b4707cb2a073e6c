import CatalogTypes.Text.Blank
import CatalogTypes.Text.Numeral

/-!
# Hosts in brackets

The host of a URL may be a numeric address between brackets: eight groups of hexadecimal digits, of
which one run of zero groups may be left out, with the last two groups possibly in dotted decimal
notation, and a zone after a percent sign.  A host in a future notation begins with `v`.
-/

namespace CatalogTypes.Url

/-- Why a host cannot stand in brackets. -/
inductive HostFault where
  | notFuture
  | dotted
  | noAddress (host : String)
deriving DecidableEq, Repr

/-! ## Dotted decimal notation -/

/-- A number below 256 in decimal without leading zeros. -/
def isOctet (cs : List Char) : Bool :=
  !cs.isEmpty && cs.all Char.isDigit && cs.length ≤ 3 && (cs = ['0'] || cs.head? ≠ some '0') &&
    Text.decimalValue cs ≤ 255

/-- Four numbers with points between them. -/
def isDotted (cs : List Char) : Bool :=
  let octets := Text.splitBy (· = '.') cs
  octets.length = 4 && octets.all isOctet

/-! ## Groups -/

/-- Up to four hexadecimal digits. -/
def isGroup (cs : List Char) : Bool :=
  !cs.isEmpty && cs.length ≤ 4 && cs.all fun c => (Text.hexValue? c).isSome

/-- The groups with a dotted pair at the end written as two zero groups, if it is well formed. -/
def undotted (groups : List (List Char)) : Option (List (List Char)) :=
  match groups.getLast? with
  | some last =>
    if last.contains '.' then
      if isDotted last then some (groups.dropLast ++ [['0'], ['0']]) else none
    else some groups
  | none => none

/-- The groups on one side of a gap; an empty one may only stand there alone. -/
def sideGroups (side : List (List Char)) : List (List Char) :=
  if side = [[]] then [] else side

/-- Whether groups, none of them empty, may stand on the two sides of a gap. -/
def fitAroundGap (before after : List (List Char)) : Bool :=
  before.all isGroup && after.all isGroup && before.length + after.length ≤ 7

/-- Whether groups are an address: eight of them, or fewer around one gap. -/
def areAddress (groups : List (List Char)) : Bool :=
  match groups with
  | [] => false
  | first :: rest =>
    let before := rest.takeWhile (!·.isEmpty)
    match rest.dropWhile (!·.isEmpty) with
    | _ :: next :: after =>
      fitAroundGap (sideGroups (first :: before)) (sideGroups (next :: after))
    | _ => groups.length = 8 && groups.all isGroup

/-- Whether a text is an address in groups, possibly with a zone. -/
def isGrouped (cs : List Char) : Bool :=
  let zone := cs.dropWhile (· ≠ '%')
  let groups := Text.splitBy (· = ':') (cs.takeWhile (· ≠ '%'))
  (zone.isEmpty || (zone.length > 1 && !(zone.drop 1).contains '%')) &&
    3 ≤ groups.length && ((undotted groups).map areAddress).getD false

/-! ## Any host in brackets -/

/-- Whether a text is `v`, hexadecimal digits, a point and something more. -/
def isFuture : List Char → Bool
  | 'v' :: rest =>
    let digits := rest.takeWhile fun c => (Text.hexValue? c).isSome
    match rest.drop digits.length with
    | '.' :: _ :: _ => !digits.isEmpty
    | _ => false
  | _ => false

/-- The fault of a host in brackets, if it has one. -/
def bracketFault? (host : List Char) : Option HostFault :=
  if host.head? = some 'v' then if isFuture host then none else some .notFuture
  else if isDotted host then some .dotted
  else if isGrouped host then none
  else some (.noAddress (String.ofList host))

end CatalogTypes.Url
