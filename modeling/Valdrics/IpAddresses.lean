import Mathlib.Data.Nat.Bitwise
import Mathlib.Data.Nat.Digits.Defs

/-! Internet addresses and networks as the `ipaddress` module of Python 3.12 reads and writes
them. -/
namespace IpAddresses

inductive Address where
  | v4 (ip : Nat)
  | v6 (ip : Nat) (scope : Option String)
  deriving DecidableEq

def digitValue (c : Char) : Option Nat :=
  if 48 ≤ c.toNat ∧ c.toNat ≤ 57 then some (c.toNat - 48) else none

def hexValue (c : Char) : Option Nat :=
  if 97 ≤ c.toNat ∧ c.toNat ≤ 102 then some (c.toNat - 87)
  else if 65 ≤ c.toNat ∧ c.toNat ≤ 70 then some (c.toNat - 55)
  else digitValue c

def number (base : Nat) (value : Char → Option Nat) (cs : List Char) : Option Nat :=
  if cs = [] then none
  else (cs.mapM value).map fun digits => digits.foldl (fun n digit => n * base + digit) 0

/-- `_parse_octet`. -/
def parseOctet (cs : List Char) : Option Nat :=
  if cs.length > 3 ∨ (cs.head? = some '0' ∧ cs ≠ ['0']) then none
  else (number 10 digitValue cs).filter (· ≤ 255)

/-- `IPv4Address._ip_int_from_string`. -/
def parseV4 (cs : List Char) : Option Nat :=
  match cs.splitOn '.' with
  | [a,b,c,d] => do
    let w ← parseOctet a
    let x ← parseOctet b
    let y ← parseOctet c
    let z ← parseOctet d
    return ((w * 256 + x) * 256 + y) * 256 + z
  | _ => none

/-- `_parse_hextet`. -/
def parseHextet (cs : List Char) : Option Nat :=
  if cs.length > 4 then none else number 16 hexValue cs

def hexDigits (n : Nat) : List Char := (Nat.digits 16 n).reverse.map Nat.digitChar

def hex (n : Nat) : List Char := if n = 0 then ['0'] else hexDigits n

def joinHextets (hextets : List Nat) : Nat := hextets.foldl (fun n hextet => n * 65536 + hextet) 0

def v6Parts (cs : List Char) : Option (List (List Char)) :=
  let parts := cs.splitOn ':'
  let last := parts.getLast?.getD []
  if parts.length < 3 then none
  else if '.' ∈ last then
    (parseV4 last).map fun ip => parts.dropLast ++ [hex (ip / 65536),hex (ip % 65536)]
  else some parts

/-- The places of `::` other than at the ends. -/
def skips (parts : List (List Char)) : List Nat :=
  (List.range parts.length).filter fun i => 0 < i ∧ i + 1 < parts.length ∧ parts[i]? = some []

/-- `IPv6Address._ip_int_from_string`. -/
def parseV6 (cs : List Char) : Option Nat := do
  let parts ← v6Parts cs
  if parts.length > 9 then none
  else match skips parts with
    | [] =>
      if parts.length = 8 then (parts.mapM parseHextet).map joinHextets else none
    | [skip] =>
      let high := if parts.head? = some [] then skip - 1 else skip
      let low := if parts.getLast? = some [] then parts.length - skip - 2
        else parts.length - skip - 1
      if (parts.head? = some [] ∧ high ≠ 0) ∨ (parts.getLast? = some [] ∧ low ≠ 0) ∨
          8 ≤ high + low then none
      else do
        let before ← (parts.take high).mapM parseHextet
        let after ← (parts.drop (parts.length - low)).mapM parseHextet
        return joinHextets (before ++ List.replicate (8 - (high + low)) 0 ++ after)
    | _ => none

/-- `IPv6Address`, with its scope after a percent sign. -/
def parseScoped (cs : List Char) : Option Address :=
  match cs.splitOn '%' with
  | [address] => (parseV6 address).map fun ip => .v6 ip none
  | [address,scope] =>
    if scope = [] then none
    else (parseV6 address).map fun ip => .v6 ip (some (String.ofList scope))
  | _ => none

/-- `ip_address`. -/
def parse (text : String) : Option Address :=
  let cs := text.toList
  if '/' ∈ cs then none else ((parseV4 cs).map .v4).or (parseScoped cs)

def dotted (ip : Nat) : String :=
  toString (ip / 16777216) ++ "." ++ toString (ip / 65536 % 256) ++ "." ++
    toString (ip / 256 % 256) ++ "." ++ toString (ip % 256)

def hextets (ip : Nat) : List Nat := (List.range 8).map fun i => ip / 65536 ^ (7 - i) % 65536

def longestZeros (xs : List Nat) : Nat × Nat :=
  (List.range xs.length).foldl (fun best i =>
    let run := ((xs.drop i).takeWhile (· = 0)).length
    if run > best.2 then (i,run) else best) (0,0)

/-- `_compress_hextets`, joined by colons. -/
def compressed (ip : Nat) : String :=
  let words := hextets ip
  let texts := words.map hex
  let (start,length) := longestZeros words
  let parts := if length > 1 then
      (if start = 0 then [[]] else []) ++ texts.take start ++ [[]] ++ texts.drop (start + length) ++
        (if start + length = 8 then [[]] else [])
    else texts
  String.ofList (List.intercalate [':'] parts)

/-- `str` of an address. -/
def Address.text : Address → String
  | .v4 ip => dotted ip
  | .v6 ip none => compressed ip
  | .v6 ip (some scope) => compressed ip ++ "%" ++ scope

structure Network where
  width : Nat
  prefixLength : Nat
  base : Nat
  deriving DecidableEq

def Address.width : Address → Nat
  | .v4 _ => 32
  | .v6 _ _ => 128

def Address.ip : Address → Nat
  | .v4 ip => ip
  | .v6 ip _ => ip

/-- The bits that an address shares with its network. -/
def masked (width prefixLength ip : Nat) : Nat :=
  ip / 2 ^ (width - prefixLength) * 2 ^ (width - prefixLength)

def Network.contains (network : Network) (address : Address) : Bool :=
  address.width = network.width && masked network.width network.prefixLength address.ip = network.base

/-- `_prefix_from_prefix_string`. -/
def parsePrefix (width : Nat) (cs : List Char) : Option Nat :=
  (number 10 digitValue cs).filter (· ≤ width)

/-- `_prefix_from_ip_int`: the length of a mask of ones followed by zeros. -/
def maskLength (mask : Nat) : Option Nat :=
  (List.range 33).reverse.find? fun length => mask = masked 32 length (2 ^ 32 - 1)

def parseMask (cs : List Char) : Option Nat :=
  (parsePrefix 32 cs).or ((parseV4 cs).bind fun mask =>
    (maskLength mask).or (maskLength (2 ^ 32 - 1 - mask)))

def Network.of (width prefixLength ip : Nat) : Network :=
  { width, prefixLength, base := masked width prefixLength ip }

/-- `ip_network` of a text, with the bits of the host dropped. -/
def parseNetwork (text : String) : Option Network :=
  match text.toList.splitOn '/' with
  | [address] =>
    ((parseV4 address).map (Network.of 32 32)).or
      ((parseScoped address).map fun parsed => Network.of 128 128 parsed.ip)
  | [address,mask] =>
    ((parseV4 address).bind fun ip => (parseMask mask).map fun length => Network.of 32 length ip).or
      ((parseScoped address).bind fun parsed =>
        (parsePrefix 128 mask).map fun length => Network.of 128 length parsed.ip)
  | _ => none

end IpAddresses
