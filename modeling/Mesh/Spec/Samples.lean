import Mesh.Native.Radio

/-!
# Concrete instances to evaluate on

`shortProst` is the protobuf wire format for messages whose fields are short
enough for one-byte tags and lengths. `blockAes` agrees with AES-256 under the
public PSK on the one counter block that packet 7 of node 1 consumes.
`bootArith` is IEEE arithmetic at the arguments the loop computes with when it
runs with the settings it starts with and receives at the exact carrier.
-/

namespace Mesh.Samples

/-- A length-delimited field of fewer than 128 bytes. -/
def field (tag : UInt8) (bytes : List UInt8) : List UInt8 :=
  tag :: UInt8.ofNat bytes.length :: bytes

/-- Read a length-delimited field and what follows it. -/
def unfield (tag : UInt8) : List UInt8 → Option (List UInt8 × List UInt8)
  | t :: n :: rest =>
    if t = tag ∧ n.toNat ≤ rest.length then some (rest.take n.toNat, rest.drop n.toNat) else none
  | _ => none

/-- Read a `Data` of these fields. -/
def decodeData : List UInt8 → Except Unit (DataFields Unit)
  | 0x08 :: p :: rest =>
    match unfield 0x12 rest with
    | some (payload, []) => .ok { portnum := Int32.ofNat p.toNat, payload, rest := () }
    | _ => .error ()
  | _ => .error ()

/-- Read a `User` of these fields. -/
def decodeUser (bytes : List UInt8) : Except Unit (UserFields Unit) :=
  let user := do
    let (id, rest) ← unfield 0x0A bytes
    let (longName, rest) ← unfield 0x12 rest
    let (shortName, _) ← unfield 0x1A rest
    let id ← String.fromUTF8? ⟨id.toArray⟩
    let longName ← String.fromUTF8? ⟨longName.toArray⟩
    let shortName ← String.fromUTF8? ⟨shortName.toArray⟩
    some { id, longName, shortName, rest := () }
  match user with
  | some user => .ok user
  | none => .error ()

scoped instance shortProst : Prost where
  DataRest := Unit
  UserRest := Unit
  DecodeError := Unit
  dataDefault := ()
  userDefault := ()
  encodeData d := [0x08, UInt8.ofNat d.portnum.toInt.toNat] ++ field 0x12 d.payload
  decodeData := decodeData
  encodeUser u :=
    field 0x0A u.id.asBytes ++ field 0x12 u.longName.asBytes ++ field 0x1A u.shortName.asBytes
  decodeUser := decodeUser
  textMessageApp := 1
  nodeinfoApp := 4
  showError _ := "failed to decode Protobuf message"

theorem length_field (tag : UInt8) (bytes : List UInt8) :
    (field tag bytes).length = bytes.length + 2 := rfl

/-- A field is read back, with what comes after it. -/
theorem unfield_field (tag : UInt8) {bytes : List UInt8} (h : bytes.length < 256)
    (rest : List UInt8) : unfield tag (field tag bytes ++ rest) = some (bytes, rest) := by
  have hlen : (UInt8.ofNat bytes.length).toNat = bytes.length := by
    rw [UInt8.toNat_ofNat', Nat.mod_eq_of_lt h]
  simp [field, unfield, hlen]

/-- The sample codec reads back what it writes of a `Data`. -/
theorem decodeData_encodeData (p : UInt8) (payload : List UInt8) (h : payload.length < 256) :
    decodeData ([0x08, p] ++ field 0x12 payload) =
      .ok { portnum := Int32.ofNat p.toNat, payload, rest := () } := by
  have hfield := unfield_field 0x12 h []
  rw [List.append_nil] at hfield
  simp only [List.cons_append, List.nil_append, decodeData, hfield]

/-- The sample codec reads back what it writes of a `User`. -/
theorem decodeUser_encodeUser (u : User) (h : (Prost.encodeUser u).length < 256) :
    Prost.decodeUser (Prost.encodeUser u) = .ok u := by
  have hlen : (field 0x0A u.id.asBytes ++ field 0x12 u.longName.asBytes ++
    field 0x1A u.shortName.asBytes).length < 256 := h
  simp only [List.length_append, length_field] at hlen
  have hid := unfield_field 0x0A (show u.id.asBytes.length < 256 by omega)
  have hlong := unfield_field 0x12 (show u.longName.asBytes.length < 256 by omega)
  have hshort := unfield_field 0x1A (show u.shortName.asBytes.length < 256 by omega) []
  rw [List.append_nil] at hshort
  show decodeUser (field 0x0A u.id.asBytes ++ field 0x12 u.longName.asBytes ++
    field 0x1A u.shortName.asBytes) = .ok u
  rw [List.append_assoc]
  simp only [decodeUser, hid, hlong, hshort, String.fromUTF8?_asBytes, Option.bind_eq_bind,
    Option.bind_some]
  rfl

scoped instance blockAes : Aes256 where
  encryptBlock _ b :=
    if b = MeshCrypto.initialBlock 7 1 then 0x6CA7246045DB395EA959E870CB0AE38C else b

/-- The broadcast text "hi" as node 1 sends it with packet id 7 on the default
    channel, `hops` hops left. -/
def hi (hops : UInt8) : MeshFrame where
  header := {
    toNode := broadcast, fromNode := 1, id := 7, hopLimit := hops, hopStart := 3,
    wantAck := false, viaMqtt := false, channelHash := 0x1E }
  payload := [0x64, 0xA6, 0x36, 0x62, 0x2D, 0xB2]

/-- The same header over the text "ho". -/
def ho : MeshFrame := { hi 3 with payload := [0x64, 0xA6, 0x36, 0x62, 0x2D, 0xB4] }

/-- The same header over a body that decrypts to a single zero byte. -/
def garbled : MeshFrame := { hi 3 with payload := [0x6C] }

/-- A fresh node on the default channel. -/
def node (id : UInt32) : MeshNode := MeshNode.withId ChannelConfig.default id "TERM" "Mesh Terminal"

scoped instance bootArith : Ieee.Arith where
  div32 x y := if y = 20.0 then if x = -60.0 then -3.0 else -1.0 else 0.0007071068393997848
  powf _ y := if y = -3.0 then 0.001 else 0.1
  add _ _ := 920.125
  mul x _ := if x = 920.125 then 920125000.0 else 0.0
  div x _ := if x = 250.0 then 0.125 else if x = 1000000.0 then 250000.0 else 0.0
  ofU64 n := if n = 1000000 then 1000000.0 else 2048.0
  widen _ := 250.0
  narrow _ := 0.0
  showSigned _ := "+0"

scoped instance uhdBuild : Features := ⟨true⟩

/-- The loop of a node with the given id, no USRP attached. -/
def boot (id : UInt32) : SimLoop := SimLoop.start (bootView id false) (.error "no device")

/-- What an iteration takes in that drains the given commands and hears nothing. -/
def quiet (commands : List Command) : TickInput where
  commands := commands
  rebuildNow := "12:00:00"
  uhdOpen := .error "no device"
  beacon := 3
  manual := fun _ => { random := 7, now := "12:00:00" }
  auto := { random := 8, now := "12:00:00" }
  mixedLen := 16000
  spectra := []

/-- An iteration that drains these commands. -/
def tick (commands : List Command) : LoopEvent := .tick (quiet commands)

theorem exists_tick (commands : List Command) :
    ∃ inp, tick commands = .tick inp ∧ inp.commands = commands := ⟨_, rfl, rfl⟩

/-- The demodulator yields a frame, at the exact carrier frequency. -/
def decoded (frame : MeshFrame) : LoopEvent :=
  .decode (.ok frame.toBytes 0.0) { now := "12:00:00", fwdNow := "12:00:00" }

/-- The demodulator has nothing more to give. -/
def idle : LoopEvent := .decode .none { now := "12:00:00", fwdNow := "12:00:00" }

end Mesh.Samples
