import ReloadProbe.Text.Quoted
import ReloadProbe.Wire.Publish

/-!
A line that says what octets hold: one part for each complete frame, in order, and one for what is
left after them.
-/
namespace ReloadProbe.Wire.Summary

def connAckPart (version : Version) (frame : Bytes) : String :=
  match ConnAck.decode version frame with
  | .ok c =>
    s!"CONNACK(rc=0x{Hex.lower 2 c.reasonCode.toNat}, session_present={c.sessionPresent}, " ++
      s!"{c.properties.length} properties)"
  | .error _ => s!"CONNACK({frame.length} bytes, undecodable)"

def publishPart (first : UInt8) (frame : Bytes) : String :=
  let qos := first.toNat / 2 % 4
  let topic := do (Read.text (← Frame.split frame).2).1
  match topic with
  | .ok topic =>
    s!"PUBLISH(qos={qos}, retain={first.toNat % 2 == 1}, topic={Text.Quoted.quote topic}, " ++
      s!"{frame.length} bytes)"
  | .error _ => s!"PUBLISH(qos={qos}, {frame.length} bytes, undecodable)"

def framePart (version : Version) (frame : Bytes) : String :=
  let first := frame.headD 0
  match PacketKind.ofFirstOctet first with
  | .connAck => connAckPart version frame
  | .publish => publishPart first frame
  | other => s!"{other.name}(flags=0x{Hex.lower 1 (first.toNat % 16)}, {frame.length} bytes)"

def tailPart (bs : Bytes) : String :=
  match Frame.length? bs with
  | .error e => s!"{bs.length} bytes of garbage ({e.message})"
  | .ok _ => s!"{(PacketKind.ofFirstOctet (bs.headD 0)).name} ({bs.length} bytes, incomplete)"

def parts (version : Version) (bs : Bytes) : List String :=
  let (frames, tail) := Frame.scan bs
  frames.map (framePart version) ++ if tail.isEmpty then [] else [tailPart tail]

def describe (version : Version) (bs : Bytes) : String :=
  if bs.isEmpty then "nothing" else ", ".intercalate (parts version bs)

end ReloadProbe.Wire.Summary
