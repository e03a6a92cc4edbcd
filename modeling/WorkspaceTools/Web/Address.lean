import WorkspaceTools.Grid.Range
import WorkspaceTools.Text.LowerCase
import WorkspaceTools.Text.Percent

/-!
# Addresses

* `Address.read?` takes an address apart: scheme, host part, path, parameters of the last segment of
  the path, query and fragment. Control characters and spaces in front of it do not count, and
  tabs and line breaks count nowhere.
* `Address.host?` and `Address.port?` read the host part.
* `queryFields` reads the fields of a query; fields without a value do not count.
-/

namespace WorkspaceTools

open Number Text

/-- What is wrong with an address. -/
inductive AddressError where
  /-- Only one of the brackets around a host, or something before them, or something other than a port
  after them. -/
  | misplacedBrackets
  | badFutureHost
  /-- A host in brackets that is no address of a network interface. -/
  | badHost (host : String)
  | shortHostInBrackets
  /-- A host with a character that stands for a delimiter. -/
  | hiddenDelimiter (host : String)
  | portNotNumber (port : String)
  | portTooLarge
  | portDigits (count : Nat)
  deriving DecidableEq

/-- The wording of an error. -/
def AddressError.message : AddressError → String
  | .misplacedBrackets => "Invalid IPv6 URL"
  | .badFutureHost => "IPvFuture address is invalid"
  | .badHost host => quoted host ++ " does not appear to be an IPv4 or IPv6 address"
  | .shortHostInBrackets => "An IPv4 address cannot be in brackets"
  | .hiddenDelimiter host =>
    "netloc '" ++ host ++ "' contains invalid characters under NFKC normalization"
  | .portNotNumber port => "Port could not be cast to integer value as " ++ quoted port
  | .portTooLarge => "Port out of range 0-65535"
  | .portDigits count => tooManyDigitsText count

/-! ## Cutting texts -/

/-- The characters up to the first of a class, and those from it on. -/
def spanUntil (p : Char → Bool) (cs : List Char) : List Char × List Char :=
  (cs.takeWhile fun c => !p c, cs.dropWhile fun c => !p c)

/-- The pieces between the occurrences of a character; `piece` is the one that has begun, last
character first. -/
def splitFrom (mark : Char) (piece : List Char) : List Char → List (List Char)
  | [] => [piece.reverse]
  | c :: rest => if c == mark then piece.reverse :: splitFrom mark [] rest else splitFrom mark (c :: piece) rest

/-- The pieces between the occurrences of a character. -/
def splitAt (mark : Char) (cs : List Char) : List (List Char) := splitFrom mark [] cs

/-- What stands after the last occurrence of a character, or everything. -/
def afterLast (mark : Char) (cs : List Char) : List Char :=
  (cs.reverse.takeWhile (· != mark)).reverse

/-- What stands up to the last occurrence of a character, and after it. -/
def splitAfterLast (mark : Char) (cs : List Char) : List Char × List Char :=
  let tail := afterLast mark cs
  (cs.take (cs.length - tail.length), tail)

/-! ## Hosts in brackets -/

/-- A number of at most three digits below 256, without a zero in front. -/
def isOctet (cs : List Char) : Bool :=
  !cs.isEmpty && cs.all isAsciiDigit && cs.length ≤ 3 && natOfDigits cs ≤ 255
    && (cs.length == 1 || cs.head? != some '0')

/-- Four octets between points. -/
def isDottedQuad (cs : List Char) : Bool :=
  let parts := splitAt '.' cs
  parts.length == 4 && parts.all isOctet

/-- Up to four hexadecimal digits. -/
def isHexGroup (cs : List Char) : Bool :=
  !cs.isEmpty && cs.length ≤ 4 && cs.all fun c => (hexValue? c).isSome

/-- Groups in which a dotted quad at the end counts as two. -/
def expandQuad (groups : List (List Char)) : Option (List (List Char)) :=
  match groups.getLast? with
  | some last =>
    if last.contains '.' then
      if isDottedQuad last then some (groups.dropLast ++ [['0'], ['0']]) else none
    else some groups
  | none => some groups

/-- Eight groups, or fewer with one gap. The first and the last group are empty only beside a gap at
that end. -/
def isGroupedAddress (cs : List Char) : Bool :=
  let groups := splitAt ':' cs
  if groups.length < 3 then false
  else
    match expandQuad groups with
    | none => false
    | some groups =>
      let inner := (groups.drop 1).dropLast
      let first := groups.head?.getD []
      let last := groups.getLast?.getD []
      let gaps := (inner.filter List.isEmpty).length
      let given := groups.filter (!·.isEmpty)
      if 9 < groups.length || 1 < gaps then false
      else if gaps == 1 then
        let second := inner.head?.getD ['0']
        let beforeLast := inner.getLast?.getD ['0']
        given.length < 8 && given.all isHexGroup && (!first.isEmpty || second.isEmpty)
          && (!last.isEmpty || beforeLast.isEmpty)
      else groups.length == 8 && groups.all isHexGroup

/-- A grouped address, with a zone after a percent sign or without. -/
def isZonedAddress (cs : List Char) : Bool :=
  match cutAt '%' cs with
  | (address, none) => isGroupedAddress address
  | (address, some zone) => !zone.isEmpty && !zone.contains '%' && isGroupedAddress address

/-- An address of a kind to come: its version in hexadecimal, a point, and something more. -/
def isFutureAddress (cs : List Char) : Bool :=
  let (version, rest) := spanUntil (· == '.') (cs.drop 1)
  !version.isEmpty && version.all (fun c => (hexValue? c).isSome)
    && 1 < rest.length && !(rest.drop 1).contains '\n'

/-- A host between brackets. -/
def checkBracketed (host : List Char) : Except AddressError Unit :=
  if host.head? == some 'v' then
    if isFutureAddress host then .ok () else .error .badFutureHost
  else if isDottedQuad host then .error .shortHostInBrackets
  else if isZonedAddress host && !host.contains '/' then .ok ()
  else .error (.badHost (String.ofList host))

/-- Characters with a compatibility form that holds one of the delimiters of an address. -/
def hiddenDelimiters : List Nat := [
  0x2047, 0x2048, 0x2049, 0x2100, 0x2101, 0x2105, 0x2106, 0x2A74, 0xFE13, 0xFE16, 0xFE55, 0xFE56,
  0xFE5F, 0xFE6B, 0xFF03, 0xFF0F, 0xFF1A, 0xFF1F, 0xFF20]

/-! ## Parts of an address -/

/-- The parts of an address. -/
structure Address where
  scheme : List Char
  authority : List Char
  path : List Char
  params : List Char
  query : List Char
  fragment : List Char
  deriving DecidableEq

namespace Address

/-- Characters of a scheme. -/
def isSchemeChar (c : Char) : Bool :=
  isAsciiLetter c || isAsciiDigit c || c == '+' || c == '-' || c == '.'

/-- Schemes whose paths can have parameters. -/
def schemesWithParams : List String := [
  "", "ftp", "hdl", "prospero", "http", "imap", "https", "shttp", "rtsp", "rtspu", "sip", "sips",
  "mms", "sftp", "tel"]

/-- Without what does not count in an address. -/
def clean (cs : List Char) : List Char :=
  (cs.dropWhile fun c => c.toNat ≤ 0x20).filter fun c => c != '\t' && c != '\r' && c != '\n'

/-- The scheme in lower case, and what follows it. -/
def takeScheme (cs : List Char) : List Char × List Char :=
  match cutAt ':' cs with
  | (scheme, some rest) =>
    match scheme with
    | c :: _ =>
      if isAsciiLetter c && scheme.all isSchemeChar then ((lowerCase (String.ofList scheme)).toList, rest)
      else ([], cs)
    | [] => ([], cs)
  | (_, none) => ([], cs)

/-- The host in a host part with brackets. What stands before an at sign may hold the brackets; the host
counts as one in brackets all the same. -/
def bracketedHost (authority : List Char) : Except AddressError (List Char) :=
  match cutAt '[' (afterLast '@' authority) with
  | (before, some bracketed) =>
    let (host, rest) := cutAt ']' bracketed
    let rest := rest.getD []
    if !before.isEmpty || !(rest.isEmpty || rest.head? == some ':') then .error .misplacedBrackets
    else .ok host
  | (part, none) => .ok (cutAt ':' part).1

/-- A host part can be read. -/
def checkAuthority (authority : List Char) : Except AddressError Unit :=
  if authority.contains '[' != authority.contains ']' then .error .misplacedBrackets
  else if authority.contains '[' then do
    checkBracketed (← bracketedHost authority)
  else .ok ()

/-- A host part without hidden delimiters. -/
def checkHidden (authority : List Char) : Except AddressError Unit :=
  if authority.any fun c => hiddenDelimiters.contains c.toNat then
    .error (.hiddenDelimiter (String.ofList authority))
  else .ok ()

/-- The host part after two slashes, and what follows it. -/
def takeAuthority : List Char → Except AddressError (List Char × List Char)
  | '/' :: '/' :: rest => do
    let (authority, rest) := spanUntil (fun c => c == '/' || c == '?' || c == '#') rest
    checkAuthority authority
    return (authority, rest)
  | cs => .ok ([], cs)

/-- A path without the parameters of its last segment, and the parameters. -/
def splitParams (path : List Char) : List Char × List Char :=
  let (before, last) := splitAfterLast '/' path
  match cutAt ';' last with
  | (name, some params) => (before ++ name, params)
  | (_, none) => (path, [])

/-- The parts of an address. -/
def read? (s : String) : Except AddressError Address := do
  let (scheme, rest) := takeScheme (clean s.toList)
  let (authority, rest) ← takeAuthority rest
  let (rest, fragment) := cutAt '#' rest
  let (path, query) := cutAt '?' rest
  checkHidden authority
  let (path, params) :=
    if schemesWithParams.contains (String.ofList scheme) then splitParams path else (path, [])
  return ⟨scheme, authority, path, params, query.getD [], fragment.getD []⟩

/-- The host and the text of the port. -/
def hostAndPort (a : Address) : List Char × List Char :=
  let part := afterLast '@' a.authority
  match cutAt '[' part with
  | (_, some bracketed) =>
    let (host, rest) := cutAt ']' bracketed
    (host, (cutAt ':' (rest.getD [])).2.getD [])
  | (_, none) =>
    let (host, port) := cutAt ':' part
    (host, port.getD [])

/-- The host in lower case, but for a zone. -/
def host? (a : Address) : Option String :=
  let (host, _) := a.hostAndPort
  if host.isEmpty then none
  else
    let (name, zone) := spanUntil (· == '%') host
    some (lowerCase (String.ofList name) ++ String.ofList zone)

/-- The greatest number of a port. -/
def maxPort : Nat := 65535

/-- The port, if one is given. -/
def port? (a : Address) : Except AddressError (Option Nat) :=
  let (_, port) := a.hostAndPort
  if port.isEmpty then .ok none
  else if !port.all isAsciiDigit then .error (.portNotNumber (String.ofList port))
  else if maxIntDigits < port.length then .error (.portDigits port.length)
  else if maxPort < natOfDigits port then .error .portTooLarge
  else .ok (some (natOfDigits port))

end Address

/-! ## Queries -/

/-- A part of a query: plus signs are blanks, and escapes are undone. -/
def queryText (cs : List Char) : String :=
  String.ofList (percentDecode (cs.map fun c => if c == '+' then ' ' else c))

/-- A field of a query with its value, unless that is empty. -/
def queryField? (cs : List Char) : Option (String × String) :=
  match cutAt '=' cs with
  | (name, some (c :: value)) => some (queryText name, queryText (c :: value))
  | _ => none

/-- The fields of a query in order. -/
def queryFields (query : List Char) : List (String × String) :=
  (splitAt '&' query).filterMap queryField?

/-- The first value of a field. -/
def queryValue? (name : String) (fields : List (String × String)) : Option String :=
  (fields.find? fun f => f.1 == name).map Prod.snd

end WorkspaceTools
