import ReloadProbe.Wire.ConnAck
import ReloadProbe.Wire.QoS

/-! PUBLISH. Its flags are in the first octet: bit 3 a repeat, bits 2 and 1 QoS, bit 0 retain. -/
namespace ReloadProbe.Wire

structure Publish where
  topic : String
  payload : Bytes
  version : Version
  qos : QoS := .atMostOnce
  retain : Bool := false
  dup : Bool := false
  packetId : Option UInt16 := none
  /-- Left out of the packet before version 5. -/
  properties : List Property := []
  deriving DecidableEq

namespace Publish

def firstOctet (p : Publish) : UInt8 :=
  0x30 + (if p.dup then 8 else 0) + p.qos.level * 2 + (if p.retain then 1 else 0)

def encodeId (p : Publish) : Except WireError Bytes :=
  if p.qos = .atMostOnce then .ok []
  else
    match p.packetId with
    | some id => .ok (Bytes.ofUInt16 id)
    | none => .error (.missingPacketId p.qos.level)

def body (p : Publish) : Except WireError Bytes := do
  let topic ← textField p.topic
  let id ← p.encodeId
  let block ← if p.version.hasProperties then Property.encodeBlock p.properties else pure []
  return topic ++ id ++ block ++ p.payload

def encode (p : Publish) : Except WireError Bytes := do
  Frame.wrap p.firstOctet (← p.body)

def readBody (version : Version) (first : UInt8) (qos : QoS) : Read Publish := do
  let topic ← Read.text
  let packetId ← if qos = .atMostOnce then pure none else some <$> Read.uint16
  let properties ← if version.hasProperties then Property.readBlock else pure []
  let payload ← Read.rest
  return { topic, payload, version, qos, packetId, properties,
           retain := first.toNat % 2 = 1, dup := first.toNat / 8 % 2 = 1 }

def decode (version : Version) (bs : Bytes) : Except WireError Publish := do
  let (first, body) ← Frame.split bs
  expectKind .publish first
  let qos ← QoS.ofLevel (UInt8.ofNat (first.toNat / 2 % 4))
  (readBody version first qos body).1

end Publish
end ReloadProbe.Wire
