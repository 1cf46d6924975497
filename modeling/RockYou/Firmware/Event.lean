import RockYou.Firmware.Value

namespace RockYou.Firmware

inductive JsonValue (F : Type) where
  | text (value : Int)
  | number (value : F)

abbrev FirebaseJson (F : Type) := List String → Option (JsonValue F)

def FirebaseJson.cleared {F : Type} : FirebaseJson F := fun _ => none

def FirebaseJson.set {F : Type} (content : FirebaseJson F) (jsonPath : List String)
    (value : JsonValue F) : FirebaseJson F :=
  Function.update content jsonPath (some value)

/-- What a Firestore call meets: `Firebase.ready()` false, a failed patch, or a delivered one. -/
inductive Link where
  | notReady
  | failed
  | delivered
  deriving DecidableEq

inductive Gear where
  | mainServo
  | lockServo
  deriving DecidableEq

inductive Event (F : Type) where
  | lockBicycle
  | unlockBicycle
  | servoWrite (gear : Gear) (posDegrees : Int)
  | sendCmdToBLE (lockState : Int)
  | serialWrite (lockCmd : BitVec 32)
  | println (text : String)
  | updateFirebase (updateValue : UpdateValue) (data : Int)
  | updateGPSFirebase (updateValue : UpdateValue) (data : F)
  | patchDocument (updateMask : List String) (content : FirebaseJson F) (succeeded : Bool)

abbrev Servos := Gear → Option Int

def Servos.observe {F : Type} (servos : Servos) : Event F → Servos
  | .servoWrite gear posDegrees => Function.update servos gear (some posDegrees)
  | _ => servos

end RockYou.Firmware
