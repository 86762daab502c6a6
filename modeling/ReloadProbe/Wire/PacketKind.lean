/-! The sixteen kinds of control packet, told apart by the upper half of the first octet. -/
namespace ReloadProbe.Wire

inductive PacketKind where
  | reserved | connect | connAck | publish | pubAck | pubRec | pubRel | pubComp
  | subscribe | subAck | unsubscribe | unsubAck | pingReq | pingResp | disconnect | auth
  deriving DecidableEq

namespace PacketKind

def ofFirstOctet (b : UInt8) : PacketKind :=
  match b.toNat / 16 with
  | 1 => connect | 2 => connAck | 3 => publish | 4 => pubAck | 5 => pubRec | 6 => pubRel
  | 7 => pubComp | 8 => subscribe | 9 => subAck | 10 => unsubscribe | 11 => unsubAck
  | 12 => pingReq | 13 => pingResp | 14 => disconnect | 15 => auth
  | _ => reserved

def name : PacketKind → String
  | reserved => "RESERVED" | connect => "CONNECT" | connAck => "CONNACK"
  | publish => "PUBLISH" | pubAck => "PUBACK" | pubRec => "PUBREC" | pubRel => "PUBREL"
  | pubComp => "PUBCOMP" | subscribe => "SUBSCRIBE" | subAck => "SUBACK"
  | unsubscribe => "UNSUBSCRIBE" | unsubAck => "UNSUBACK" | pingReq => "PINGREQ"
  | pingResp => "PINGRESP" | disconnect => "DISCONNECT" | auth => "AUTH"

end PacketKind
end ReloadProbe.Wire
