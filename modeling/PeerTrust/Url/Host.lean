import PeerTrust.Domain.Ascii
import PeerTrust.Host.Address
import PeerTrust.Url.Fault
import PeerTrust.Url.Percent

/-!
# Hosts of URLs

A host is a domain name in ASCII, an address, or, in a scheme of which nothing more is known, a text
that is kept as it is. A domain name that ends in a number is an address of four octets written with
up to four numbers, each decimal, octal or hexadecimal, the last of which fills what is left.
-/

namespace PeerTrust.Url

/-- A host of a URL. -/
inductive Host where
  | domain (name : List Char)
  | address (address : Address)
  | verbatim (text : List Char)
  deriving DecidableEq, Repr

namespace Host

/-- A host in text, an address without brackets. -/
def toText : Host → List Char
  | domain name => name
  | address a => a.toText
  | verbatim text => text

/-- A host as a URL writes it: an address of sixteen octets stands in brackets. -/
def written : Host → List Char
  | address (.v6 octets) => '[' :: (Address.v6 octets).toText ++ [']']
  | host => host.toText

/-- The number that digits spell. -/
def digits? (value : Char → Option Nat) (base : Nat) (text : List Char) : Option Nat :=
  if text.all fun c => (value c).any (· < base) then
    some (text.foldl (fun n c => base * n + (value c).getD 0) 0)
  else none

/-- A number in an address: hexadecimal after `0x`, octal after another zero, or decimal. -/
def part? : List Char → Option Nat
  | [] => none
  | '0' :: 'x' :: rest => digits? Hex.value? 16 rest
  | '0' :: 'X' :: rest => digits? Hex.value? 16 rest
  | '0' :: c :: rest => digits? Address.decimal? 8 (c :: rest)
  | text => digits? Address.decimal? 10 text

/-- The parts of a domain name between dots, without an empty last one. -/
def parts (name : List Char) : List (List Char) :=
  let all := Text.splitAll '.' name
  if all.getLast? = some [] then all.dropLast else all

/-- Whether a domain name ends in a number and so has to be an address. -/
def endsInNumber (name : List Char) : Bool :=
  match (parts name).getLast? with
  | none => false
  | some [] => false
  | some last => (digits? Address.decimal? 10 last).isSome || (part? last).isSome

/-- The address of numbers: all but the last are octets, the last fills what is left. -/
def ofNumbers? (numbers : List Nat) : Option Address :=
  match numbers.reverse with
  | [] => none
  | last :: before =>
    let octets := before.reverse
    let room := 4 - octets.length
    if numbers.length ≤ 4 ∧ octets.all (· < 256) ∧ last < Nat.pow 256 room then
      some (.v4 (octets.map UInt8.ofNat ++ Bytes.ofNat room last))
    else none

/-- The address that a domain name ending in a number spells. -/
def ofNumberText (name : List Char) : Except Fault Host :=
  match (parts name).mapM part? >>= ofNumbers? with
  | some a => .ok (.address a)
  | none => .error .invalidV4Address

/-- The address between brackets, of which the first is given to be there. -/
def ofBrackets (text : List Char) : Except Fault Host :=
  let inside := (text.drop 1).dropLast
  match Address.readV6 inside with
  | some (octets, []) =>
    if text.getLast? = some ']' then .ok (.address (.v6 octets)) else .error .invalidV6Address
  | _ => .error .invalidV6Address

/-- A host in one of the schemes for the network. -/
def ofText (text : List Char) : Except Fault Host :=
  if text.head? = some '[' then ofBrackets text
  else
    match Utf8.decode? (unescape text) >>= Domain.toAscii? with
    | none => .error .invalidDomainName
    | some [] => .error .emptyHost
    | some name => if endsInNumber name then ofNumberText name else .ok (.domain name)

/-- The characters that no host has that is kept as it is. -/
def isReserved (c : Char) : Bool :=
  ['\x00', '\t', '\n', '\r', ' ', '#', '/', ':', '<', '>', '?', '@', '[', '\\', ']', '^',
    '|'].contains c

/-- A host in any other scheme. An empty one is no host. -/
def ofOtherText (text : List Char) : Except Fault (Option Host) :=
  if text.isEmpty then .ok none
  else if text.head? = some '[' then (ofBrackets text).map some
  else if text.any isReserved then .error .invalidDomainCharacter
  else .ok (some (.verbatim text))

end Host

end PeerTrust.Url
