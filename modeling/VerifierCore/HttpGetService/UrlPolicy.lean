import VerifierCore.Text

/-!
# The address policy of the HTTP service

Which URLs the built-in HTTP service may fetch.  A host is judged as a name or as an
address literal, in the form the URL parser gives it.
-/

namespace VerifierCore

/-! ## The URL parser -/

/-- The parts of a parsed URL that the policy reads. -/
structure ParsedUrl where
  protocol : String
  hostname : String
deriving DecidableEq

/-- The runtime's URL parser: `new URL(url)`, and `new URL(location, base).href`.  It has
no answer where the constructor throws. -/
structure UrlParser where
  parse : String → Option ParsedUrl
  resolve : String → String → Option String

/-! ## Verdicts -/

/-- What the policy says of a URL. -/
inductive UrlCheck where
  | allowed
  | refused (reason : String)
deriving DecidableEq

/-! ## IPv4 -/

/-- The address of a dotted literal, as `>>> 0` leaves it. -/
def ipv4ToInt (dotted : String) : Nat :=
  (splitChars '.' dotted.toList).foldl (fun acc octet => acc * 256 + digitsValue octet) 0 % 2 ^ 32

/-- `/^\d{1,3}(\.\d{1,3}){3}$/`. -/
def isIpv4Literal (host : String) : Bool :=
  let octets := splitChars '.' host.toList
  octets.length = 4 &&
    octets.all fun octet => 1 ≤ octet.length && octet.length ≤ 3 && octet.all isDigit

/-- The ranges the policy refuses: network, prefix length and reason. -/
def ipv4Ranges : List (String × Nat × String) :=
  [("0.0.0.0", 8, "host is an unspecified address"),
    ("127.0.0.0", 8, "host is a loopback address"),
    ("10.0.0.0", 8, "host is a private address"),
    ("172.16.0.0", 12, "host is a private address"),
    ("192.168.0.0", 16, "host is a private address"),
    ("100.64.0.0", 10, "host is a private address"),
    ("168.63.129.16", 32, "host is a private address"),
    ("192.0.0.0", 24, "host is a reserved address"),
    ("169.254.0.0", 16, "host is a link-local address"),
    ("224.0.0.0", 4, "host is a multicast address"),
    ("240.0.0.0", 4, "host is a reserved address")]

/-- The mask of a prefix length. -/
def ipv4Mask (length : Nat) : Nat :=
  (0xffffffff <<< (32 - length)) % 2 ^ 32

/-- The refused ranges as network, mask and reason. -/
def ipv4Blocked : List (Nat × Nat × String) :=
  ipv4Ranges.map fun range =>
    (ipv4ToInt range.1 &&& ipv4Mask range.2.1, ipv4Mask range.2.1, range.2.2)

/-- The verdict on an IPv4 address. -/
def checkIpv4 (address : Nat) : UrlCheck :=
  match ipv4Blocked.find? fun range => address &&& range.2.1 = range.1 with
  | some range => .refused range.2.2
  | none => .allowed

/-! ## IPv6 -/

/-- The pieces between the double colons. -/
def splitDoubleColon : List Char → List (List Char)
  | [] => [[]]
  | ':' :: ':' :: rest => [] :: splitDoubleColon rest
  | c :: rest =>
      match splitDoubleColon rest with
      | [] => [[c]]
      | piece :: pieces => (c :: piece) :: pieces

/-- The value of a hexadecimal digit. -/
def hexDigit? (c : Char) : Option Nat :=
  if isDigit c then some (c.toNat - '0'.toNat)
  else if 'a' ≤ c ∧ c ≤ 'f' then some (c.toNat - 'a'.toNat + 10)
  else if 'A' ≤ c ∧ c ≤ 'F' then some (c.toNat - 'A'.toNat + 10)
  else none

/-- `Number.parseInt(group, 16)` of a group without sign, blanks or `0x`: the digits in
front, and no number without any. -/
def parseHex (group : List Char) : Option Nat :=
  match group.takeWhile fun c => (hexDigit? c).isSome with
  | [] => none
  | digits => some ((digits.filterMap hexDigit?).foldl (fun value digit => 16 * value + digit) 0)

/-- The groups between the colons; an empty part has none. -/
def colonGroups (part : List Char) : List (List Char) :=
  if part = [] then [] else splitChars ':' part

/-- The eight groups of a literal.  One with more of them makes the array of zeros
between its halves throw. -/
def expandIpv6 (literal : List Char) : Option (List (Option Nat)) :=
  let parts := splitDoubleColon literal
  let headGroups := colonGroups (parts.headD [])
  let tailGroups := colonGroups (parts.tail.headD [])
  if 8 < headGroups.length + tailGroups.length then none
  else
    let fill := List.replicate (8 - headGroups.length - tailGroups.length) ['0']
    some ((headGroups ++ fill ++ tailGroups).map parseHex)

/-- Judge the groups of a literal.  In a bit operation a missing number counts as 0. -/
def checkIpv6Groups (groups : List (Option Nat)) : UrlCheck :=
  let group (i : Nat) : Option Nat := groups.getD i none
  let bits (i : Nat) : Nat := (group i).getD 0
  let zerosUpTo (stop : Nat) : Bool := (groups.take stop).all fun g => g = some 0
  let embedded (i j : Nat) : Nat := (bits i <<< 16 ||| bits j) % 2 ^ 32
  let nat64 : Bool := group 0 = some 0x64 && group 1 = some 0xff9b
  let mapped : Bool := zerosUpTo 5 && (group 5 = some 0xffff || group 5 = some 0)
  if zerosUpTo 8 then .refused "host is an unspecified address"
  else if zerosUpTo 7 && group 7 = some 1 then .refused "host is a loopback address"
  else if mapped || (nat64 && ((groups.drop 2).take 4).all fun g => g = some 0) then
    checkIpv4 (embedded 6 7)
  else if group 0 = some 0x2002 then checkIpv4 (embedded 1 2)
  else if (nat64 && group 2 = some 1) || bits 0 &&& 0xfe00 = 0xfc00 ||
      bits 0 &&& 0xffc0 = 0xfec0 then
    .refused "host is a private address"
  else if bits 0 &&& 0xffc0 = 0xfe80 then .refused "host is a link-local address"
  else if bits 0 &&& 0xff00 = 0xff00 then .refused "host is a multicast address"
  else .allowed

/-- What the array constructor throws for a negative length. -/
def arrayLengthError : Thrown :=
  .obj [("message", .str "Invalid array length")]

/-- The verdict on an IPv6 literal. -/
def checkIpv6 (literal : List Char) : Except Thrown UrlCheck :=
  match expandIpv6 literal with
  | some groups => .ok (checkIpv6Groups groups)
  | none => .error arrayLengthError

/-! ## URLs -/

/-- `replace(/\.$/, '')`. -/
def dropFinalDot (host : String) : String :=
  if host.toList.getLast? = some '.' then String.ofList host.toList.dropLast else host

/-- A text ends in another. -/
def endsWith (text tail : String) : Bool :=
  tail.toList.isSuffixOf text.toList

/-- Decide whether the built-in HTTP service may fetch a URL. -/
def checkUrl (parser : UrlParser) (url : String) (allowInsecure : Bool) :
    Except Thrown UrlCheck :=
  match parser.parse url with
  | none => .ok (.refused "not a valid URL")
  | some parsed =>
      if allowInsecure then
        if parsed.protocol = "https:" ∨ parsed.protocol = "http:" then .ok .allowed
        else .ok (.refused "scheme is not http or https")
      else if parsed.protocol ≠ "https:" then .ok (.refused "scheme is not https")
      else
        let host := dropFinalDot (lowerAscii parsed.hostname)
        if host = "localhost" ∨ endsWith host ".localhost" then
          .ok (.refused "host is localhost")
        else if isIpv4Literal host then .ok (checkIpv4 (ipv4ToInt host))
        else if startsWith host "[" then checkIpv6 (host.toList.tail.dropLast)
        else .ok .allowed

example : checkIpv4 (ipv4ToInt "169.254.169.254") = .refused "host is a link-local address" := by
  decide +kernel

example : checkIpv6 "::ffff:7f00:1".toList = .ok (.refused "host is a loopback address") := by
  decide +kernel

end VerifierCore
