import ReloadProbe.Wire.Frame
import ReloadProbe.Wire.Property
import ReloadProbe.Wire.Version

/-! CONNACK, as a broker answers a CONNECT. -/
namespace ReloadProbe.Wire

/-- Fails unless the first octet of a frame is that of the packet wanted. -/
def expectKind (wanted : PacketKind) (first : UInt8) : Except WireError Unit :=
  if PacketKind.ofFirstOctet first = wanted then .ok () else .error (.unexpectedPacket wanted first)

structure ConnAck where
  sessionPresent : Bool
  /-- Zero is success in every version. -/
  reasonCode : UInt8
  version : Version
  /-- Left out of the packet before version 5. -/
  properties : List Property := []
  deriving DecidableEq

namespace ConnAck

def body (c : ConnAck) : Except WireError Bytes := do
  let block ← if c.version.hasProperties then Property.encodeBlock c.properties else pure []
  return [if c.sessionPresent then 1 else 0, c.reasonCode] ++ block

def encode (c : ConnAck) : Except WireError Bytes := do
  Frame.wrap 0x20 (← c.body)

/-- The fields of a body. A body that ends after the reason code has no properties; octets after
the fields are ignored. -/
def readBody (version : Version) : Read ConnAck := do
  let flags ← Read.octet
  let reasonCode ← Read.octet
  let properties ← fun left =>
    if version.hasProperties && !left.isEmpty then Property.readBlock left else (.ok [], left)
  return { sessionPresent := flags.toNat % 2 = 1, reasonCode, version, properties }

def decode (version : Version) (bs : Bytes) : Except WireError ConnAck := do
  let (first, body) ← Frame.split bs
  expectKind .connAck first
  (readBody version body).1

end ConnAck
end ReloadProbe.Wire
