import ReloadProbe.Text.Hex
import ReloadProbe.Wire.PacketKind

/-! Why octets cannot be written or read as MQTT. -/
namespace ReloadProbe.Wire

inductive WireError where
  | stringTooLong (length : Nat)
  | remainingLengthTooLarge (length : Nat)
  | malformedVarInt
  | truncated (needed available : Nat)
  | unexpectedPacket (expected : PacketKind) (firstOctet : UInt8)
  | missingPacketId (qos : UInt8)
  | invalidQoS (level : UInt8)
  | unsupportedVersion (level : UInt8)
  | unknownProperty (id : UInt8)
  | invalidUtf8
  deriving DecidableEq

namespace WireError

def kind : WireError → String
  | stringTooLong _ => "StringTooLong"
  | remainingLengthTooLarge _ => "RemainingLengthTooLarge"
  | malformedVarInt => "MalformedVariableInt"
  | truncated _ _ => "Truncated"
  | unexpectedPacket _ _ => "UnexpectedPacketType"
  | missingPacketId _ => "MissingPacketId"
  | invalidQoS _ => "InvalidQoS"
  | unsupportedVersion _ => "UnsupportedProtocolVersion"
  | unknownProperty _ => "UnknownProperty"
  | invalidUtf8 => "InvalidUtf8"

def message : WireError → String
  | stringTooLong n => s!"String too long: {n} bytes exceeds 65535"
  | remainingLengthTooLarge n => s!"Remaining length too large: {n} exceeds 268435455"
  | malformedVarInt => "Malformed variable byte integer"
  | truncated needed available =>
    s!"Truncated input: needed {needed} bytes, {available} available"
  | unexpectedPacket expected b =>
    s!"Unexpected packet type: expected {expected.name}, got 0x{Hex.upper 2 b.toNat}"
  | missingPacketId qos => s!"Packet identifier required for QoS {qos.toNat}"
  | invalidQoS level => s!"Invalid QoS: {level.toNat}"
  | unsupportedVersion level => s!"Unsupported protocol version: {level.toNat}"
  | unknownProperty id => s!"Unknown property identifier: 0x{Hex.upper 2 id.toNat}"
  | invalidUtf8 => "Invalid UTF-8 string"

end WireError
end ReloadProbe.Wire
