import RockYou.Firmware.Value

namespace RockYou.Firmware

/-- The part of the TinyGPS library that the sketch calls: a decoder fed byte by byte, the
    position of its last valid sentence, and a distance in metres. -/
structure TinyGPS (G F : Type) where
  start : G
  encode : G → UInt8 → G × Bool
  f_get_position : G → GPSValue F
  distance_between : F → F → F → F → F

variable {G F : Type}

def readWindow (tiny : TinyGPS G F) : List UInt8 → G → Bool → G × Bool
  | [], gps, newData => (gps, newData)
  | c :: rest, gps, newData =>
    let (gps, complete) := tiny.encode gps c
    readWindow tiny rest gps (if complete then true else newData)

/-- Without a complete sentence the returned struct keeps its uninitialised contents `gpsValue`. -/
def getGPSValue (tiny : TinyGPS G F) (window : List UInt8) (gpsValue : GPSValue F) (gps : G) :
    GPSValue F × G :=
  let (gps, newData) := readWindow tiny window gps false
  if newData then (tiny.f_get_position gps, gps) else (gpsValue, gps)

def newData (tiny : TinyGPS G F) (window : List UInt8) (gps : G) : Bool :=
  (readWindow tiny window gps false).2

def decodedFix (tiny : TinyGPS G F) (window : List UInt8) (gps : G) : GPSValue F :=
  tiny.f_get_position (readWindow tiny window gps false).1

theorem getGPSValue_gps (tiny : TinyGPS G F) (window : List UInt8) (gpsValue : GPSValue F)
    (gps : G) : (getGPSValue tiny window gpsValue gps).2 = (readWindow tiny window gps false).1 := by
  unfold getGPSValue
  dsimp only
  split <;> rfl

theorem getGPSValue_of_newData {tiny : TinyGPS G F} {window : List UInt8} {gps : G}
    (decoded : newData tiny window gps = true) (gpsValue : GPSValue F) :
    (getGPSValue tiny window gpsValue gps).1 = decodedFix tiny window gps := by
  unfold newData at decoded
  simp only [getGPSValue, decoded, decodedFix, ite_true]

def TinyGPS.distance (tiny : TinyGPS G F) (fix stored : GPSValue F) : F :=
  tiny.distance_between fix.latitude fix.longitude stored.latitude stored.longitude

/-- A receiver on a meridian: every byte completes a sentence and is its latitude. -/
def meridianGPS : TinyGPS (GPSValue Int) Int where
  start := { latitude := 0, longitude := 0 }
  encode := fun _ c => ({ latitude := c.toNat, longitude := 1 }, true)
  f_get_position := id
  distance_between := fun latitude _ otherLatitude _ => (latitude - otherLatitude).natAbs

end RockYou.Firmware
