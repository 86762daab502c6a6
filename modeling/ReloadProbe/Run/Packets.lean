import ReloadProbe.Config.Settings
import ReloadProbe.Failure
import ReloadProbe.Wire.Connect

/-! The packets that a run sends and expects, octet for octet. -/
namespace ReloadProbe

structure Packets where
  connect : Bytes
  connack : Bytes
  notification : Bytes

namespace Packets

open Config Wire

def connectOf (s : Settings) (version : Version) : Connect :=
  { clientId := s.client.clientId, version
    keepAlive := s.client.keepalive, cleanStart := s.client.cleanSession }

/-- The topic alias maximum stands before the receive maximum. -/
def connackOf (s : Settings) (version : Version) : ConnAck :=
  { sessionPresent := s.handshake.sessionPresent, reasonCode := s.handshake.reasonCode, version
    properties :=
      if version.hasProperties then
        (s.handshake.topicAliasMaximum.map Property.topicAliasMaximum).toList ++
          (s.handshake.receiveMaximum.map Property.receiveMaximum).toList
      else [] }

/-- A packet that is numbered has the number 1, the first of a fresh session. -/
def notificationOf (s : Settings) (version : Version) (qos : QoS) : Publish :=
  { topic := s.notification.topic, payload := Utf8.encode s.notification.payload, version, qos
    retain := s.notification.retain
    packetId := if qos = .atMostOnce then none else some 1 }

def build (s : Settings) : Except Failure Packets := do
  let version ← s.version.mapError fun fault => .invalidConfig fault.message
  let connect ← (connectOf s version).encode.mapError .wire
  let connack ← (connackOf s version).encode.mapError .wire
  let qos ← (QoS.ofLevel s.notification.qos).mapError .wire
  let notification ← (notificationOf s version qos).encode.mapError .wire
  return { connect, connack, notification }

end Packets
end ReloadProbe
