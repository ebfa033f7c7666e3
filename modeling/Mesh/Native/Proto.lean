import Mesh.ForStd.Bytes

/-!
# Protobuf messages (`proto/mod.rs`)

The message types and their codec are generated by `prost-build` from a
submodule, so they enter as the class `Prost`: `Data` and `User` carry the fields
this crate names, and `rest` stands for the generated fields it leaves at
`..Default::default()`.
-/

namespace Mesh

/-- `meshtastic::Data`, with `ρ` for the fields the crate never names. -/
structure DataFields (ρ : Type) where
  portnum : Int32
  payload : List UInt8
  rest : ρ
deriving DecidableEq

/-- `meshtastic::User`, with `σ` for the fields the crate never names. -/
structure UserFields (σ : Type) where
  id : String
  longName : String
  shortName : String
  rest : σ
deriving DecidableEq

/-- What the generated module and the `prost` crate provide. -/
class Prost where
  DataRest : Type
  UserRest : Type
  DecodeError : Type
  dataDefault : DataRest
  userDefault : UserRest
  /-- `Data::encode_to_vec`. -/
  encodeData : DataFields DataRest → List UInt8
  /-- `Data::decode`. -/
  decodeData : List UInt8 → Except DecodeError (DataFields DataRest)
  /-- `User::encode_to_vec`. -/
  encodeUser : UserFields UserRest → List UInt8
  /-- `User::decode`. -/
  decodeUser : List UInt8 → Except DecodeError (UserFields UserRest)
  /-- `PortNum::TextMessageApp as i32`. -/
  textMessageApp : Int32
  /-- `PortNum::NodeinfoApp as i32`. -/
  nodeinfoApp : Int32
  /-- `Display` of a decode error. -/
  showError : DecodeError → String

section

variable [Prost]

abbrev Data : Type := DataFields Prost.DataRest

abbrev User : Type := UserFields Prost.UserRest

namespace User

/-- Encode to bytes suitable for wrapping in a `Data` payload. -/
def encodeToData (self : User) : Data where
  portnum := Prost.nodeinfoApp
  payload := Prost.encodeUser self
  rest := Prost.dataDefault

end User

namespace Data

/-- Decode a `User` from a `NODEINFO_APP` payload. -/
def decodeUser (self : Data) : Except Prost.DecodeError User :=
  Prost.decodeUser self.payload

/-- Interpret a `TEXT_MESSAGE_APP` payload as a UTF-8 string. -/
def text (self : Data) : Option String :=
  if self.portnum = Prost.textMessageApp then
    String.fromUTF8? ⟨self.payload.toArray⟩
  else none

end Data

end

end Mesh
