import ReloadProbe.Proofs.Wire.Connect
import ReloadProbe.Run.Packets

/-!
The packets that settings ask for. With valid settings nothing but the client's name, the topic and
the size of the notification can keep the packets from being written; what is written is read back
as the settings say.
-/
namespace ReloadProbe

open Except (bind_eq_ok mapError_eq_ok eq_ok_get)
open Config Wire

/-- Settings with which there is a broker to start, a session to try and a reload to wait for. -/
structure Config.Settings.Valid (s : Config.Settings) : Prop where
  program : ¬ Text.isAllBlank s.broker.program
  attempts : s.startup.attempts ≠ 0
  cycles : s.reloadCycles ≠ 0
  qos : s.notification.qos ≤ 2
  variants : s.variants ≠ []
  version : ∃ v, s.version = .ok v

theorem Config.Settings.valid_of_validate {s : Config.Settings} (h : s.validate = .ok ()) :
    s.Valid := by
  unfold validate at h
  split at h
  · cases h
  split at h
  · cases h
  split at h
  · cases h
  split at h
  · cases h
  split at h
  · cases h
  rename_i program attempts cycles qos variants
  refine ⟨program, attempts, cycles, UInt8.not_lt.mp qos, by simpa using variants, ?_⟩
  cases known : s.version with
  | ok v => exact ⟨v, rfl⟩
  | error e =>
    rw [known] at h
    cases h

variable {s : Settings} {version : Version} {qos : QoS} {p : Packets}

theorem Wire.Version.level_of_ofLevel {level : UInt8} (h : Version.ofLevel level = .ok version) :
    version.level = level := by
  unfold Version.ofLevel at h
  split at h
  · cases h; simp_all [Version.level]
  split at h
  · cases h; simp_all [Version.level]
  split at h
  · cases h; simp_all [Version.level]
  · cases h

theorem Wire.QoS.ofLevel_of_le {level : UInt8} (h : level ≤ 2) :
    ∃ qos, QoS.ofLevel level = .ok qos := by
  have few : level.toNat ≤ 2 := h
  obtain zero | one | two : level = 0 ∨ level = 1 ∨ level = 2 := by
    simp only [← UInt8.toNat_inj, UInt8.reduceToNat]
    omega
  · exact ⟨.atMostOnce, by rw [zero]; rfl⟩
  · exact ⟨.atLeastOnce, by rw [one]; rfl⟩
  · exact ⟨.exactlyOnce, by rw [two]; rfl⟩

theorem Config.Settings.level_of_version (h : s.version = .ok version) :
    version.level = s.client.protocolVersion := by
  unfold Settings.version at h
  split at h
  · rename_i known
    cases h
    exact Version.level_of_ofLevel known
  · cases h

namespace Packets

/-- The packets of a plan, one by one. -/
theorem build_eq_ok :
    build s = .ok p ↔ ∃ version qos, s.version = .ok version ∧
      QoS.ofLevel s.notification.qos = .ok qos ∧
      (connectOf s version).encode = .ok p.connect ∧
      (connackOf s version).encode = .ok p.connack ∧
      (notificationOf s version qos).encode = .ok p.notification := by
  unfold build
  simp only [bind_eq_ok, mapError_eq_ok]
  constructor
  · rintro ⟨version, known, connect, one, connack, two, qos, level, notification, three, told⟩
    cases told
    exact ⟨version, qos, known, level, one, two, three⟩
  · rintro ⟨version, qos, known, level, one, two, three⟩
    exact ⟨version, known, _, one, _, two, qos, level, _, three, rfl⟩

/-- Each of the packets is one frame. -/
theorem whole_of_build (h : build s = .ok p) :
    Frame.Whole p.connect ∧ Frame.Whole p.connack ∧ Frame.Whole p.notification := by
  obtain ⟨version, qos, _, _, connect, connack, notification⟩ := build_eq_ok.mp h
  exact ⟨Frame.whole_of_wrap connect, Frame.whole_of_wrap connack, Frame.whole_of_wrap notification⟩

/-! What may keep a packet from being written. -/

/-- The size of the body of a notification: its topic, its number, its properties, of which there
are none, and its payload. -/
def notificationSize (s : Settings) : Nat :=
  2 + (Utf8.encode s.notification.topic).length + (if s.notification.qos = 0 then 0 else 2) +
    (if s.client.protocolVersion = 5 then 1 else 0) + (Utf8.encode s.notification.payload).length

theorem faults_connect (s : Settings) (version : Version) :
    (connectOf s version).faults.head? = (textFaults s.client.clientId).head? := by
  have small : Property.sizeFor version [] ≤ 1 := by cases version <;> decide +kernel
  have name : textSize version.protocolName ≤ 8 := by cases version <;> decide +kernel
  show (Property.faultsFor version [] ++ (textFaults s.client.clientId ++
    lengthFaults (connectOf s version).bodySize)).head? = _
  rw [Property.faultsFor_nil, List.nil_append]
  by_cases fits : (Utf8.encode s.client.clientId).length ≤ 65535
  · have within : (connectOf s version).bodySize ≤ VarInt.limit := by
      show textSize version.protocolName + 4 + Property.sizeFor version [] +
        (2 + (Utf8.encode s.client.clientId).length) ≤ 268435455
      omega
    rw [textFaults_eq_nil.mpr fits, lengthFaults_eq_nil.mpr within]
    rfl
  · rw [textFaults, if_neg fits]
    rfl

/-- The answer to a CONNECT has two properties at most, and no text. -/
theorem faults_connack (s : Settings) (version : Version) : (connackOf s version).faults = [] := by
  have few (aliases most : Option UInt16) :
      let both := (aliases.map Property.topicAliasMaximum).toList ++
        (most.map Property.receiveMaximum).toList
      Property.faultsAll both = [] ∧ Property.sizeAll both ≤ 6 := by
    cases aliases <;> cases most <;>
      exact ⟨rfl, by simp [Property.sizeAll, Property.valueSize]⟩
  obtain ⟨plain, small⟩ := few s.handshake.topicAliasMaximum s.handshake.receiveMaximum
  refine ConnAck.faults_eq_nil.mpr ?_
  cases version with
  | v31 | v311 =>
    refine ⟨fun five => absurd five (by simp [connackOf]), ?_⟩
    rw [ConnAck.bodySize_older (by simp [connackOf])]
    decide
  | v5 =>
    refine ⟨fun _ => ⟨Property.faultsAll_eq_nil.mp plain, Nat.le_trans small (by decide)⟩, ?_⟩
    have width := VarInt.width_le_four (Property.sizeAll (connackOf s .v5).properties)
    show 2 + (VarInt.width (Property.sizeAll _) + Property.sizeAll _) ≤ 268435455
    have small : Property.sizeAll (connackOf s .v5).properties ≤ 6 := small
    omega

/-- A notification has a number if it needs one, and no property. -/
theorem faults_notification (known : s.version = .ok version)
    (level : QoS.ofLevel s.notification.qos = .ok qos) :
    (notificationOf s version qos).faults =
      textFaults s.notification.topic ++ lengthFaults (notificationSize s) := by
  have numbered : (notificationOf s version qos).idFaults = [] := by
    refine Publish.idFaults_eq_nil.mpr fun positive => ?_
    have positive : qos ≠ .atMostOnce := positive
    show Option.isSome (if qos = .atMostOnce then none else some 1) = true
    rw [if_neg positive]
    rfl
  have bare : (notificationOf s version qos).propertyFaults = [] := Property.faultsFor_nil version
  have size : (notificationOf s version qos).bodySize = notificationSize s := by
    have id : (notificationOf s version qos).idSize = if s.notification.qos = 0 then 0 else 2 := by
      rw [← Publish.level_of_ofLevel level]
      cases qos <;> rfl
    have block : (notificationOf s version qos).propertySize =
        if s.client.protocolVersion = 5 then 1 else 0 := by
      rw [← Settings.level_of_version known]
      cases version <;> rfl
    rw [Publish.bodySize, id, block]
    rfl
  rw [Publish.faults, numbered, bare, size]
  rfl

/-- Why the packets of valid settings cannot be written, in the order in which it would be met. -/
def faults (s : Settings) : List WireError :=
  textFaults s.client.clientId ++
    (textFaults s.notification.topic ++ lengthFaults (notificationSize s))

theorem build_tells (known : s.version = .ok version)
    (level : QoS.ofLevel s.notification.qos = .ok qos) :
    match build s with
    | .ok _ => faults s = []
    | .error e => ∃ fault, (faults s).head? = some fault ∧ e = .wire fault := by
  have parts : build s = do
      let connect ← (connectOf s version).encode.mapError .wire
      let connack ← (connackOf s version).encode.mapError .wire
      let notification ← (notificationOf s version qos).encode.mapError .wire
      return { connect, connack, notification } := by
    simp only [build, known, level]
    rfl
  have hello := Connect.writes_encode (connectOf s version)
  obtain ⟨welcome, answered⟩ :=
    (ConnAck.writes_encode (connackOf s version)).eq_ok_iff.mpr (faults_connack s version)
  have news := Publish.writes_encode (notificationOf s version qos)
  rw [parts, answered]
  cases greeted : (connectOf s version).encode with
  | error e =>
    have first := hello.eq_error_iff.mp greeted
    rw [faults_connect] at first
    exact ⟨e, by rw [faults, List.head?_append, first]; rfl, rfl⟩
  | ok connect =>
    have named : textFaults s.client.clientId = [] := by
      rw [← List.head?_eq_none_iff, ← faults_connect s version, hello.eq_ok_iff.mp ⟨_, greeted⟩]
      rfl
    rw [faults, named, List.nil_append, ← faults_notification known level]
    cases written : (notificationOf s version qos).encode with
    | error e => exact ⟨e, news.eq_error_iff.mp written, rfl⟩
    | ok notification => exact news.eq_ok_iff.mp ⟨_, written⟩

theorem build_ok_iff (known : s.version = .ok version)
    (level : QoS.ofLevel s.notification.qos = .ok qos) :
    (∃ p, build s = .ok p) ↔ faults s = [] := by
  have told := build_tells known level
  cases built : build s with
  | ok p =>
    rw [built] at told
    exact iff_of_true ⟨p, rfl⟩ told
  | error e =>
    rw [built] at told
    obtain ⟨fault, first, _⟩ := told
    refine iff_of_false nofun fun sound => ?_
    rw [sound] at first
    cases first

theorem build_eq_error (known : s.version = .ok version)
    (level : QoS.ofLevel s.notification.qos = .ok qos) {fault : WireError}
    (first : (faults s).head? = some fault) : build s = .error (.wire fault) := by
  have told := build_tells known level
  cases built : build s with
  | ok p =>
    rw [built] at told
    rw [show faults s = [] from told] at first
    cases first
  | error e =>
    rw [built] at told
    obtain ⟨same, met, rfl⟩ := told
    cases first.symm.trans met
    rfl

theorem faults_eq_nil :
    faults s = [] ↔ (Utf8.encode s.client.clientId).length ≤ 65535 ∧
      (Utf8.encode s.notification.topic).length ≤ 65535 ∧ notificationSize s ≤ 268435455 := by
  rw [faults, List.append_eq_nil_iff, List.append_eq_nil_iff, textFaults_eq_nil, textFaults_eq_nil,
    lengthFaults_eq_nil, VarInt.limit]

/-- With valid settings the packets can be written exactly if the client's name, the topic and the
notification fit, and it is the first of these that fails where one does not. The packets that are
written are one frame each and are read back as the settings say. -/
theorem build_faithful (s : Settings) (valid : s.validate = .ok ()) :
    ∃ version qos, version.level = s.client.protocolVersion ∧ qos.level = s.notification.qos ∧
      ((∃ p, build s = .ok p) ↔ (Utf8.encode s.client.clientId).length ≤ 65535 ∧
        (Utf8.encode s.notification.topic).length ≤ 65535 ∧ notificationSize s ≤ 268435455) ∧
      (65535 < (Utf8.encode s.client.clientId).length →
        build s = .error (.wire (.stringTooLong (Utf8.encode s.client.clientId).length))) ∧
      ((Utf8.encode s.client.clientId).length ≤ 65535 →
        65535 < (Utf8.encode s.notification.topic).length →
        build s = .error (.wire (.stringTooLong (Utf8.encode s.notification.topic).length))) ∧
      ((Utf8.encode s.client.clientId).length ≤ 65535 →
        (Utf8.encode s.notification.topic).length ≤ 65535 → 268435455 < notificationSize s →
        build s = .error (.wire (.remainingLengthTooLarge (notificationSize s)))) ∧
      ∀ p, build s = .ok p →
        Frame.Whole p.connect ∧ Frame.Whole p.connack ∧ Frame.Whole p.notification ∧
        ConnAck.decode version p.connack = .ok
          { sessionPresent := s.handshake.sessionPresent
            reasonCode := s.handshake.reasonCode, version
            properties :=
              if version = .v5 then
                (s.handshake.topicAliasMaximum.map Property.topicAliasMaximum).toList ++
                  (s.handshake.receiveMaximum.map Property.receiveMaximum).toList
              else [] } ∧
        Publish.decode version p.notification = .ok
          { topic := s.notification.topic
            payload := Utf8.encode s.notification.payload, version, qos
            retain := s.notification.retain, dup := false
            packetId := if s.notification.qos = 0 then none else some 1, properties := [] } := by
  have fine := Settings.valid_of_validate valid
  obtain ⟨version, known⟩ := fine.version
  obtain ⟨qos, level⟩ := QoS.ofLevel_of_le fine.qos
  refine ⟨version, qos, Settings.level_of_version known, Publish.level_of_ofLevel level,
    (build_ok_iff known level).trans faults_eq_nil, ?_, ?_, ?_, ?_⟩
  · intro long
    refine build_eq_error known level ?_
    rw [faults, textFaults, if_neg (Nat.not_le.mpr long)]
    rfl
  · intro named long
    refine build_eq_error known level ?_
    rw [faults, textFaults_eq_nil.mpr named, textFaults, if_neg (Nat.not_le.mpr long)]
    rfl
  · intro named titled large
    have large : ¬ notificationSize s ≤ VarInt.limit := Nat.not_le.mpr large
    refine build_eq_error known level ?_
    rw [faults, textFaults_eq_nil.mpr named, textFaults_eq_nil.mpr titled, lengthFaults,
      if_neg large]
    rfl
  · intro p built
    obtain ⟨connect, connack, notification⟩ := whole_of_build built
    obtain ⟨version', qos', known', level', _, answered, written⟩ := build_eq_ok.mp built
    cases known.symm.trans known'
    cases level.symm.trans level'
    have welcome := ConnAck.decode_encode answered []
    have news := Publish.decode_encode written []
    rw [List.append_nil] at welcome news
    refine ⟨connect, connack, notification, welcome.trans ?_, news.trans ?_⟩
    · cases version <;> rfl
    · have zero : s.notification.qos = 0 ↔ qos = .atMostOnce := by
        rw [← Publish.level_of_ofLevel level]
        cases qos <;> decide
      cases qos <;> cases version <;> simp [Publish.normal, notificationOf, zero]

/-- A notification that has to be confirmed, and is kept for those who come later. -/
def confirmed : Settings := { notification := { topic := "a/b", qos := 1, retain := true } }

theorem build_faithful_confirmed : ∃ p, build confirmed = .ok p ∧ Frame.Whole p.notification ∧
    Publish.decode .v5 p.notification = .ok
      { topic := "a/b", payload := Utf8.encode confirmed.notification.payload, version := .v5
        qos := .atLeastOnce, retain := true, packetId := some 1 } := by
  have valid : confirmed.validate = .ok () := eq_ok_get (by decide +kernel)
  obtain ⟨version, qos, five, one, writable, _, _, _, reads⟩ := build_faithful confirmed valid
  obtain ⟨p, built⟩ := writable.mpr (by decide +kernel)
  obtain ⟨_, _, whole, _, news⟩ := reads p built
  obtain rfl : version = .v5 := by
    cases version with
    | v31 | v311 => exact absurd five (by decide)
    | v5 => rfl
  obtain rfl : qos = .atLeastOnce := by
    cases qos with
    | atMostOnce | exactlyOnce => exact absurd one (by decide)
    | atLeastOnce => rfl
  exact ⟨p, built, whole, news⟩

end Packets
end ReloadProbe
