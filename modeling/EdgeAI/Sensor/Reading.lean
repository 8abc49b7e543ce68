import EdgeAI.Python.Numpy

/-!
# Sensor readings

`SensorReading` is the dataclass every sensor produces. Its `value: Any` takes the five shapes
the sensors and the spec name: a scalar, a boolean, a labelled vector (a dict such as
`{"x": .., "y": .., "z": ..}`), an image array, or `None`. Python's `float(value)` and
`bool(value)` are total on some of them and raise on the others; both are modelled here once.

The unit and confidence fields are read by no modelled function and are left out, as is the
`resolution` entry of the metadata, which only feeds a context map nothing reads.
-/

namespace EdgeAI

/-- `SensorType`. -/
inductive SensorType where
  | temperature | motion | camera | humidity | light | pressure | accelerometer | gps
deriving DecidableEq, Repr

/-- `SensorType.value`. -/
def SensorType.value : SensorType → PyStr
  | .temperature => pyStr "temperature"
  | .motion => pyStr "motion"
  | .camera => pyStr "camera"
  | .humidity => pyStr "humidity"
  | .light => pyStr "light"
  | .pressure => pyStr "pressure"
  | .accelerometer => pyStr "accelerometer"
  | .gps => pyStr "gps"

/-- A numpy array holding an image buffer: its shape and its entries in row-major order. -/
structure Frame (α : Type) where
  shape : List Nat
  data : List α

/-- The value of a reading. -/
inductive Value (α : Type) where
  | num (x : α)
  | bool (b : Bool)
  | dict (d : PyDict α)
  | array (f : Frame α)
  | none

/-- `SensorReading`. -/
structure SensorReading (α : Type) where
  sensorId : PyStr
  sensorType : SensorType
  timestamp : α
  value : Value α
  metadata : Option (PyDict α)

/-- `1.0 if b else 0.0`. -/
def boolToFloat {α : Type} [LinearOrderedField α] (b : Bool) : α := if b then 1 else 0

namespace Value

variable {α : Type} [LinearOrderedField α]

/-- `float(value)`: a one-element array converts, any other array raises. -/
def toFloat : Value α → Except PyError α
  | .num x => .ok x
  | .bool b => .ok (boolToFloat b)
  | .array f => match f.data with
    | [x] => .ok x
    | _ => .error .typeError
  | .dict _ => .error .typeError
  | .none => .error .typeError

/-- `bool(value)`: the truth value of an array of other than one element is an error. -/
def truth : Value α → Except PyError Bool
  | .num x => .ok (x ≠ 0)
  | .bool b => .ok b
  | .dict d => .ok (d.entries ≠ [])
  | .array f => match f.data with
    | [x] => .ok (x ≠ 0)
    | _ => .error .valueError
  | .none => .ok false

end Value

/-! ## The sensor classes' `read()`

The readings the four sensor classes build in `read()`, on the branch they take (each sets
`_simulate = True`): the value's shape and the metadata, with the random draws and `time.time()`
as arguments. -/

section Read

variable {α : Type}

/-- `TemperatureSensor.read()`: the value `round(temperature, 2)`, no metadata. -/
def temperatureRead (sensorId : PyStr) (timestamp temperature : α) : SensorReading α :=
  ⟨sensorId, .temperature, timestamp, .num temperature, none⟩

/-- `CameraSensor.read()`: the frame, and the metadata with `objects_detected` and `brightness`
(and the resolution, left out). -/
def cameraRead (sensorId : PyStr) (timestamp : α) (frame : Frame α) (objectsDetected brightness : α) :
    SensorReading α :=
  ⟨sensorId, .camera, timestamp, .array frame,
    some ((PyDict.empty.set (pyStr "objects_detected") objectsDetected).set (pyStr "brightness")
      brightness)⟩

/-- `AccelerometerSensor.read()`: `{"x": .., "y": .., "z": ..}`, no metadata. -/
def accelerometerRead (sensorId : PyStr) (timestamp x y z : α) : SensorReading α :=
  ⟨sensorId, .accelerometer, timestamp,
    .dict (((PyDict.empty.set (pyStr "x") x).set (pyStr "y") y).set (pyStr "z") z), none⟩

end Read

/-- The six image statistics `_process_camera` reads off a frame with OpenCV. -/
structure CameraStats (α : Type) where
  brightnessR : α
  brightnessG : α
  brightnessB : α
  brightnessOverall : α
  contrast : α
  edgeDensity : α

/-- What the pipeline takes from its libraries rather than from this repository: the square root
behind `np.sqrt`, `np.std` and `np.linalg.norm`, and the OpenCV pipeline (`cv2.resize`,
`cv2.cvtColor`, `cv2.Sobel`) that turns a frame into its statistics, or raises. -/
structure Libraries (α : Type) where
  sqrt : α → α
  vision : Frame α → Except PyError (CameraStats α)

end EdgeAI
