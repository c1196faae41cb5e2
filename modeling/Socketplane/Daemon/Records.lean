import Socketplane.Ecc

/-! # What the daemon keeps in the store

The allocators keep bitmaps under `ipam/<subnet>` and `vlan/vlan`; `CreateNetwork`
keeps each network under `network/<id>` as the JSON text `json.Marshal` makes of
it. A stored value is either raw bytes or a network record: the record stands for
its JSON text, which `Value.bytes` spells out, and `GetNetwork` reads it back
without a parser. No key ever holds both kinds, since each store is written by one
kind of caller only.
-/

namespace Daemon

/-- A network as `network.go` declares it. -/
structure Network where
  ID : String
  Subnet : String
  Gateway : String
  Vlan : Nat
deriving DecidableEq, Repr

/-- A value of the store: raw bytes, or a network record. -/
inductive Value where
  | raw (b : List UInt8)
  | record (n : Network)
deriving DecidableEq, Repr

/-- Go 1.4 `encoding/json` quoting of one character of a string. -/
def jsonEscape (c : Char) : String :=
  if c = '\\' then "\\\\"
  else if c = '"' then "\\\""
  else if c = '\n' then "\\n"
  else if c = '\r' then "\\r"
  else if c.toNat < 0x20 ∨ c = '<' ∨ c = '>' ∨ c = '&' then
    "\\u00" ++ String.ofList [Nat.digitChar (c.toNat / 16), Nat.digitChar (c.toNat % 16)]
  else if c.toNat = 0x2028 ∨ c.toNat = 0x2029 then
    "\\u202" ++ String.ofList [Nat.digitChar (c.toNat % 16)]
  else c.toString

def jsonString (s : String) : String := "\"" ++ String.join (s.toList.map jsonEscape) ++ "\""

/-- The text `json.Marshal` makes of a network: its fields in declaration order,
under their tags. -/
def Network.json (n : Network) : String :=
  "\x7b\"id\":" ++ jsonString n.ID ++ ",\"subnet\":" ++ jsonString n.Subnet ++
    ",\"gateway\":" ++ jsonString n.Gateway ++ ",\"vlan\":" ++ toString n.Vlan ++ "\x7d"

/-- The bytes a stored value is. -/
def Value.bytes : Value → List UInt8
  | .raw b => b
  | .record n => n.json.toUTF8.toList

end Daemon
