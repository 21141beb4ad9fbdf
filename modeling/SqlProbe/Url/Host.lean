import SqlProbe.Text.Ascii
import SqlProbe.Text.Percent
import SqlProbe.Url.Address

/-!
# Hosts of URLs

The host of a URL, and why a text is none. Under the schemes that browsers know a host is a domain
name or an address; under every other it is opaque: an address of version 6 between brackets, or any
text without certain characters, in which control characters and what is not ASCII are
percent-encoded.
-/

namespace SqlProbe.Url

/-- Why a text is no URL. -/
inductive ParseError where
  | emptyHost
  | invalidDomainName
  | invalidPort
  | invalidIpv4
  | invalidIpv6
  | invalidHostChar
  | noScheme
  deriving DecidableEq, Repr

/-- The description of an error. -/
def ParseError.message : ParseError → String
  | emptyHost => "empty host"
  | invalidDomainName => "invalid international domain name"
  | invalidPort => "invalid port number"
  | invalidIpv4 => "invalid IPv4 address"
  | invalidIpv6 => "invalid IPv6 address"
  | invalidHostChar => "invalid domain character"
  | noScheme => "relative URL without a base"

/-- A control character of ASCII. -/
def isControl (c : Char) : Bool := c.toNat < 0x20 || c.toNat = 0x7F

/-- A character that an opaque host must not have. -/
def isForbiddenInHost (c : Char) : Bool :=
  c = '\x00' || c = '\t' || c = '\n' || c = '\r' || c = ' ' || c = '#' || c = '/' || c = ':' ||
    c = '<' || c = '>' || c = '?' || c = '@' || c = '[' || c = '\\' || c = ']' || c = '^' || c = '|'

/-- A character that a domain name must not have. -/
def isForbiddenInDomain (c : Char) : Bool := isForbiddenInHost c || isControl c || c = '%'

/-- An address of version 6 between brackets. -/
def bracketed (cs : List Char) : Except ParseError (List Char) :=
  match cs.getLast? with
  | some ']' =>
    match ipv6? (cs.drop 1).dropLast with
    | some groups => .ok ('[' :: (ipv6Text groups ++ [']']))
    | none => .error .invalidIpv6
  | _ => .error .invalidIpv6

/-- An opaque host. -/
def opaqueHost (cs : List Char) : Except ParseError (List Char) :=
  if cs.head? = some '[' then bracketed cs
  else if cs.any isForbiddenInHost then .error .invalidHostChar
  else .ok (Text.Percent.encode (fun c => !isControl c) cs)

/-- A domain name or an address. -/
def domainHost (cs : List Char) : Except ParseError (List Char) :=
  if cs.head? = some '[' then bracketed cs
  else
    let bytes := Text.Percent.decodeBytes (Text.Utf8.encode cs)
    let domain := Text.lower (Text.Utf8.decodeLossy bytes)
    if domain.any isForbiddenInDomain then .error .invalidDomainName
    else if domain = [] then .error .emptyHost
    else if endsInNumber domain && !isIpv4 domain then .error .invalidIpv4
    else .ok domain

end SqlProbe.Url
