import RockYou.Library.DocumentStore

namespace RockYou.Cloud

inductive FieldValue (F : Type) where
  | string (value : String)
  | integer (value : Int)
  | geoPoint (latitude longitude : F)
  deriving DecidableEq

abbrev Document (F : Type) := DocumentStore.Document String (FieldValue F)

abbrev Collection (F : Type) := DocumentStore.Store String String (FieldValue F)

abbrev QueryDocument (F : Type) := Sigma fun _ : String => Document F

def QueryDocument.documentID {F : Type} (document : QueryDocument F) : String := document.1

def QueryDocument.get {F : Type} (document : QueryDocument F) (field : String) :
    Option (FieldValue F) := document.2 field

def FieldValue.asString {F : Type} : Option (FieldValue F) → Option String
  | some (.string value) => some value
  | _ => none

def FieldValue.asInt {F : Type} : Option (FieldValue F) → Option Int
  | some (.integer value) => some value
  | _ => none

def FieldValue.asGeoPoint {F : Type} : Option (FieldValue F) → Option (F × F)
  | some (.geoPoint latitude longitude) => some (latitude, longitude)
  | _ => none

@[simp] theorem asString_string {F : Type} (value : String) :
    FieldValue.asString (F := F) (some (.string value)) = some value := rfl

@[simp] theorem asString_none {F : Type} : FieldValue.asString (F := F) none = none := rfl

@[simp] theorem asInt_integer {F : Type} (value : Int) :
    FieldValue.asInt (F := F) (some (.integer value)) = some value := rfl

theorem asString_eq_some {F : Type} {field : Option (FieldValue F)} {value : String} :
    FieldValue.asString field = some value ↔ field = some (.string value) := by
  rcases field with _ | _ | _ | _ <;> simp [FieldValue.asString]

end RockYou.Cloud
