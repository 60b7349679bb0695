import Iems.Lib.Dict
import Iems.Lib.ExtRat
import Iems.Lib.Raising

/-! The calibration file: a value of the file format, saved as a whole and read plant by plant with its fallbacks. -/
namespace Iems.Ml.CalibrationFile
open Lib

/-- A key of a mapping; a plant's code is a text. -/
inductive Key where
  | text (name : String)
  | other (shown : String)
  deriving DecidableEq

/-- A value of the file; `other` is a date or the like. -/
inductive Yaml where
  | null
  | flag (value : Bool)
  | int (value : Int)
  | float (value : ExtRat)
  | text (value : String)
  | other (shown : String)
  | list (items : List Yaml)
  | map (fields : List (Key × Yaml))

abbrev Fields := List (Key × Yaml)

def Yaml.truthy : Yaml → Bool
  | .null => false
  | .flag value => value
  | .int value => value ≠ 0
  | .float value => value ≠ .finite 0
  | .text value => value ≠ ""
  | .other _ => true
  | .list items => !items.isEmpty
  | .map fields => !fields.isEmpty

/-- `value or {}`. -/
def orEmpty (value : Option Yaml) : Yaml :=
  match value with
  | none => .map []
  | some value => if value.truthy then value else .map []

/-- What has a `get`. -/
def fieldsOf : Yaml → Except String Fields
  | .map fields => .ok fields
  | _ => .error "AttributeError: no attribute 'get'"

/-- The YAML library and the conversions of the language: `parseFloat` reads a float from a text, and `shown` is `str` of
a value that is no text. -/
structure Tools where
  safeLoad : String → Except String Yaml
  safeDump : Yaml → String
  parseFloat : String → Option ExtRat
  shown : Yaml → String

/-- A calibration over the numbers `num`: those of a fit, or the floats that a file may hold. -/
structure PhysicsCalibration (num : Type) where
  plantCode : String
  energyScale : num
  energyOffset : num
  carbonScale : num
  carbonOffset : num
  version : String
  deriving DecidableEq

/-- The defaults of the fields. -/
def uncorrected (plantCode version : String) : PhysicsCalibration ℚ := ⟨plantCode, 1, 0, 1, 0, version⟩

def PhysicsCalibration.floats (cal : PhysicsCalibration ℚ) : PhysicsCalibration ExtRat where
  plantCode := cal.plantCode
  energyScale := .finite cal.energyScale
  energyOffset := .finite cal.energyOffset
  carbonScale := .finite cal.carbonScale
  carbonOffset := .finite cal.carbonOffset
  version := cal.version

section
variable (tools : Tools)

/-- A list or a mapping is no key. -/
def keyOf : Yaml → Option Key
  | .list _ | .map _ => none
  | .text name => some (.text name)
  | value => some (.other (tools.shown value))

def Key.value : Key → Yaml
  | .text name => .text name
  | .other shown => .other shown

/-- One element of an iterable that `dict` takes: a list, a text or a mapping of two. -/
def pairOf : Yaml → Option (Key × Yaml)
  | .list [key, value] => (keyOf tools key).map fun key => (key, value)
  | .text word =>
    match word.toList with
    | [key, value] => some (.text (String.ofList [key]), .text (String.ofList [value]))
    | _ => none
  | .map [(key, _), (value, _)] => some (key, value.value)
  | _ => none

/-- `dict(value)`. -/
def asDict : Yaml → Except String Fields
  | .map fields => .ok fields
  | .list items =>
    match items.mapM (pairOf tools) with
    | some pairs => .ok (pairs.foldl (fun fields pair => upsert pair.1 pair.2 fields) [])
    | none => .error "TypeError: cannot convert dictionary update sequence"
  | _ => .error "TypeError: object is not iterable"

/-- `float(value)`. -/
def toFloat : Yaml → Except String ExtRat
  | .float value => .ok value
  | .int value => .ok (.finite value)
  | .flag value => .ok (.finite (if value then 1 else 0))
  | .text value =>
    match tools.parseFloat value with
    | some value => .ok value
    | none => .error "ValueError: could not convert string to float"
  | _ => .error "TypeError: float() argument must be a string or a real number"

/-- `str(value)`. -/
def toText : Yaml → String
  | .text value => value
  | value => tools.shown value

def field (fields : Fields) (name : String) : Option Yaml := fields.lookup (.text name)

def floatField (fields : Fields) (name : String) (default : ℚ) : Except String ExtRat :=
  toFloat tools ((field fields name).getD (.float (.finite default)))

/-- The version of an entry: its own, that of the file or the default. -/
def entryVersion (raw entry : Fields) : String :=
  toText tools ((field entry "version").getD ((field raw "version").getD (.text "default")))

/-- The last lines of `load_calibration`, with the plant's entry and the file's top level. -/
def readEntry (plantCode : String) (raw entry : Fields) : Except String (PhysicsCalibration ExtRat) := do
  let energyScale ← floatField tools entry "energy_scale" 1
  let energyOffset ← floatField tools entry "energy_offset" 0
  let carbonScale ← floatField tools entry "carbon_scale" 1
  let carbonOffset ← floatField tools entry "carbon_offset" 0
  return {
    plantCode := plantCode
    energyScale := energyScale
    energyOffset := energyOffset
    carbonScale := carbonScale
    carbonOffset := carbonOffset
    version := entryVersion tools raw entry }

/-- `load_calibration` over the text of the file, `none` where there is no file. -/
def loadCalibration (plantCode : String) (file : Option String) : Except String (PhysicsCalibration ExtRat) :=
  match file with
  | none => .ok (uncorrected plantCode "default").floats
  | some text => do
    let content ← tools.safeLoad text
    let raw ← fieldsOf (orEmpty (some content))
    let plants ← fieldsOf (orEmpty (field raw "plants"))
    let entry ← fieldsOf (orEmpty (field plants plantCode))
    readEntry tools plantCode raw entry

def entryOf (cal : PhysicsCalibration ExtRat) : Yaml :=
  .map [(.text "energy_scale", .float cal.energyScale), (.text "energy_offset", .float cal.energyOffset),
    (.text "carbon_scale", .float cal.carbonScale), (.text "carbon_offset", .float cal.carbonOffset),
    (.text "version", .text cal.version)]

def payloadOf (cal : PhysicsCalibration ExtRat) (plants : Fields) : Yaml :=
  .map [(.text "version", .text cal.version), (.text "plants", .map (upsert (.text cal.plantCode) (entryOf cal) plants))]

/-- The plants that a save starts from. -/
def savedPlants (file : Option String) : Except String Fields :=
  match file with
  | none => .ok []
  | some text => do
    let content ← tools.safeLoad text
    let raw ← fieldsOf (orEmpty (some content))
    asDict tools (orEmpty (field raw "plants"))

/-- The text that the file holds after `save_calibration`. -/
def saveCalibration (cal : PhysicsCalibration ExtRat) (file : Option String) : Except String String := do
  let plants ← savedPlants tools file
  return tools.safeDump (payloadOf cal plants)

/-- The top level of the file; no file reads as an empty one. -/
def topLevel (file : Option String) : Except String Fields :=
  match file with
  | none => .ok []
  | some text => do
    let content ← tools.safeLoad text
    fieldsOf (orEmpty (some content))

/-- The entry that `load_calibration` reads of a plant. -/
def plantEntry (plantCode : String) (raw : Fields) : Except String Fields := do
  let plants ← fieldsOf (orEmpty (field raw "plants"))
  fieldsOf (orEmpty (field plants plantCode))

variable {tools}

theorem loadCalibration_eq (plantCode : String) (file : Option String) :
    loadCalibration tools plantCode file = (do
      let raw ← topLevel tools file
      let entry ← plantEntry plantCode raw
      readEntry tools plantCode raw entry) := by
  unfold loadCalibration topLevel plantEntry
  cases file with
  | none => rfl
  | some text => simp only [bind_assoc]

theorem loadCalibration_ok {plantCode : String} {file : Option String} {cal : PhysicsCalibration ExtRat} :
    loadCalibration tools plantCode file = .ok cal ↔
      ∃ raw entry, topLevel tools file = .ok raw ∧ plantEntry plantCode raw = .ok entry ∧
        readEntry tools plantCode raw entry = .ok cal := by
  rw [loadCalibration_eq, bind_eq_ok]
  constructor
  · rintro ⟨raw, top, rest⟩
    obtain ⟨entry, found, read⟩ := bind_eq_ok.mp rest
    exact ⟨raw, entry, top, found, read⟩
  · rintro ⟨raw, entry, top, found, read⟩
    exact ⟨raw, top, bind_eq_ok.mpr ⟨entry, found, read⟩⟩

/-- Only the version of a reading depends on the top level. -/
theorem readEntry_other {plantCode : String} {raw entry : Fields} {cal : PhysicsCalibration ExtRat}
    (read : readEntry tools plantCode raw entry = .ok cal) (raw' : Fields) :
    cal.version = entryVersion tools raw entry ∧
      readEntry tools plantCode raw' entry = .ok { cal with version := entryVersion tools raw' entry } := by
  unfold readEntry at read ⊢
  obtain ⟨energyScale, first, read⟩ := bind_eq_ok.mp read
  obtain ⟨energyOffset, second, read⟩ := bind_eq_ok.mp read
  obtain ⟨carbonScale, third, read⟩ := bind_eq_ok.mp read
  obtain ⟨carbonOffset, fourth, read⟩ := bind_eq_ok.mp read
  cases read
  refine ⟨rfl, ?_⟩
  rw [first, second, third, fourth]
  rfl

/-! ### What a save does to each plant -/

theorem lookup_upsert_field (fields : Fields) (name other : String) (value : Yaml) :
    field (upsert (.text name) value fields) other = if other = name then some value else field fields other := by
  unfold field
  rw [lookup_upsert]
  simp

theorem upsert_truthy (key : Key) (value : Yaml) (fields : Fields) : (Yaml.map (upsert key value fields)).truthy = true := by
  cases fields with
  | nil => rfl
  | cons first rest =>
    unfold upsert
    split <;> rfl

theorem topLevel_saved {cal : PhysicsCalibration ExtRat} {plants : Fields}
    (kept : tools.safeLoad (tools.safeDump (payloadOf cal plants)) = .ok (payloadOf cal plants)) :
    topLevel tools (some (tools.safeDump (payloadOf cal plants))) =
      .ok [(.text "version", .text cal.version),
        (.text "plants", .map (upsert (.text cal.plantCode) (entryOf cal) plants))] := by
  unfold topLevel
  dsimp only
  rw [kept]
  rfl

/-- The entry of any plant in a saved file: the saved one's is new, the others keep theirs. -/
theorem plantEntry_saved (plantCode : String) (cal : PhysicsCalibration ExtRat) (plants : Fields) :
    plantEntry plantCode [(.text "version", .text cal.version),
        (.text "plants", .map (upsert (.text cal.plantCode) (entryOf cal) plants))] =
      fieldsOf (orEmpty (if plantCode = cal.plantCode then some (entryOf cal) else field plants plantCode)) := by
  unfold plantEntry
  have held : field [(.text "version", .text cal.version),
      (.text "plants", .map (upsert (.text cal.plantCode) (entryOf cal) plants))] "plants" =
        some (.map (upsert (.text cal.plantCode) (entryOf cal) plants)) := rfl
  rw [held]
  unfold orEmpty
  dsimp only
  rw [upsert_truthy]
  simp only [if_true]
  rw [← lookup_upsert_field]
  rfl

variable (tools) in
theorem readEntry_saved (cal : PhysicsCalibration ExtRat) (raw : Fields) :
    ∃ fields, entryOf cal = .map fields ∧ readEntry tools cal.plantCode raw fields = .ok cal :=
  ⟨_, rfl, rfl⟩

/-- A plant that was read before keeps its entry over a save. -/
theorem savedPlants_read {plantCode : String} {file : Option String} {raw entry plants : Fields}
    (top : topLevel tools file = .ok raw) (found : plantEntry plantCode raw = .ok entry)
    (saved : savedPlants tools file = .ok plants) : fieldsOf (orEmpty (field plants plantCode)) = .ok entry := by
  unfold plantEntry at found
  obtain ⟨before, read, found⟩ := bind_eq_ok.mp found
  have same : plants = before := by
    cases file with
    | none =>
      cases top
      cases read
      cases saved
      rfl
    | some text =>
      unfold topLevel at top
      unfold savedPlants at saved
      obtain ⟨content, loaded, top⟩ := bind_eq_ok.mp top
      obtain ⟨content', loaded', saved⟩ := bind_eq_ok.mp saved
      rw [loaded] at loaded'
      cases loaded'
      obtain ⟨raw', top', saved⟩ := bind_eq_ok.mp saved
      rw [top] at top'
      cases top'
      -- what has a `get` is copied as it is
      cases shape : orEmpty (field raw "plants") with
      | map fields =>
        rw [shape] at read saved
        cases read
        cases saved
        rfl
      | _ =>
        rw [shape] at read
        cases read
  rw [same]
  exact found

/-- The plant's entry names a version, or the file's own version is the given one. -/
def VersionSettled (tools : Tools) (file : Option String) (plantCode version : String) : Prop :=
  ∃ raw entry, topLevel tools file = .ok raw ∧ plantEntry plantCode raw = .ok entry ∧
    ((field entry "version").isSome ∨ entryVersion tools raw [] = version)

/-- A reading under another top level is the same exactly where the versions agree. -/
theorem sameVersion_iff {raw entry : Fields} {before : PhysicsCalibration ExtRat} {version : String} {rest : Fields}
    (read : before.version = entryVersion tools raw entry) :
    ({ before with version := entryVersion tools ((.text "version", .text version) :: rest) entry } : PhysicsCalibration ExtRat) =
        before ↔ (field entry "version").isSome ∨ entryVersion tools raw [] = version := by
  have onlyVersion : ∀ other, ({ before with version := other } : PhysicsCalibration ExtRat) = before ↔ other = before.version := by
    intro other
    constructor
    · intro same
      exact congrArg PhysicsCalibration.version same
    · rintro rfl
      rfl
  rw [onlyVersion, read]
  unfold entryVersion
  cases field entry "version" with
  | some own => simp
  | none =>
    have top : field ((.text "version", .text version) :: rest) "version" = some (.text version) := rfl
    have bare : field [] "version" = none := rfl
    rw [top, bare]
    simp [toText, eq_comm]

/-- A save is read back, and another plant reads as before exactly where its entry names its version or the file's
version is already that of the saved calibration. -/
theorem save_frames_iff (tools : Tools) (file : Option String) (cal : PhysicsCalibration ExtRat) (text : String)
    (saved : saveCalibration tools cal file = .ok text)
    (kept : ∀ plants, savedPlants tools file = .ok plants →
      tools.safeLoad (tools.safeDump (payloadOf cal plants)) = .ok (payloadOf cal plants)) :
    loadCalibration tools cal.plantCode (some text) = .ok cal ∧
      ∀ plantCode, plantCode ≠ cal.plantCode → ∀ before, loadCalibration tools plantCode file = .ok before →
        (loadCalibration tools plantCode (some text) = .ok before ↔
          VersionSettled tools file plantCode cal.version) := by
  unfold saveCalibration at saved
  obtain ⟨plants, start, written⟩ := bind_eq_ok.mp saved
  cases written
  have top := topLevel_saved (kept plants start)
  constructor
  · obtain ⟨fields, entry, read⟩ := readEntry_saved tools cal _
    refine loadCalibration_ok.mpr ⟨_, fields, top, ?_, read⟩
    rw [plantEntry_saved, if_pos rfl, entry]
    cases entry
    rfl
  · intro plantCode other before loaded
    obtain ⟨raw, entry, topBefore, found, read⟩ := loadCalibration_ok.mp loaded
    have entryAfter := plantEntry_saved plantCode cal plants
    rw [if_neg other, savedPlants_read topBefore found start] at entryAfter
    obtain ⟨version, after⟩ := readEntry_other read [(.text "version", .text cal.version),
      (.text "plants", .map (upsert (.text cal.plantCode) (entryOf cal) plants))]
    rw [loadCalibration_ok.mpr ⟨_, entry, top, entryAfter, after⟩, Except.ok.injEq, sameVersion_iff version]
    constructor
    · intro settled
      exact ⟨raw, entry, topBefore, found, settled⟩
    · rintro ⟨raw', entry', topBefore', found', settled⟩
      rw [topBefore] at topBefore'
      cases topBefore'
      rw [found] at found'
      cases found'
      exact settled

end

def fittedOlefin : PhysicsCalibration ExtRat :=
  { (uncorrected "olefin" "fitted").floats with energyScale := .finite (3 / 2) }

def fittedText : String :=
  "version: fitted\nplants:\n  olefin:\n    energy_scale: 1.5\n    energy_offset: 0.0\n    carbon_scale: 1.0\n" ++
    "    carbon_offset: 0.0\n    version: fitted\n"

/-- The library on the file of one fitted plant. -/
def fittedTools : Tools where
  safeLoad text := if text = fittedText then .ok (payloadOf fittedOlefin []) else .error "YAMLError"
  safeDump _ := fittedText
  parseFloat _ := none
  shown _ := ""

theorem fittedTools_loads : fittedTools.safeLoad fittedText = .ok (payloadOf fittedOlefin []) := by
  simp only [fittedTools, if_true]

theorem save_frames_iff_fitted :
    loadCalibration fittedTools "olefin" (some fittedText) = .ok fittedOlefin ∧
      ∀ plantCode, plantCode ≠ "olefin" → ∀ before, loadCalibration fittedTools plantCode none = .ok before →
        (loadCalibration fittedTools plantCode (some fittedText) = .ok before ↔
          VersionSettled fittedTools none plantCode "fitted") :=
  save_frames_iff fittedTools none fittedOlefin fittedText rfl (by
    intro plants start
    cases start
    exact fittedTools_loads)

/-- The first fit of one plant makes a plant without an entry report itself as fitted. -/
theorem unfitted_plant_reports_fitted :
    saveCalibration fittedTools fittedOlefin none = .ok fittedText ∧
      loadCalibration fittedTools "pta" none = .ok (uncorrected "pta" "default").floats ∧
      loadCalibration fittedTools "pta" (some fittedText) = .ok (uncorrected "pta" "fitted").floats ∧
      (uncorrected "pta" "fitted").floats ≠ (uncorrected "pta" "default").floats := by
  have top : topLevel fittedTools (some fittedText) =
      .ok [(.text "version", .text "fitted"),
        (.text "plants", .map (upsert (.text "olefin") (entryOf fittedOlefin) []))] := topLevel_saved fittedTools_loads
  exact ⟨rfl, rfl, loadCalibration_ok.mpr ⟨_, [], top, rfl, rfl⟩, by decide⟩

/-! ### Files of complete entries -/

/-- The entry of a plant as a save writes it. -/
structure PlantScales where
  energyScale : ℚ
  energyOffset : ℚ
  carbonScale : ℚ
  carbonOffset : ℚ
  version : String
  deriving DecidableEq

/-- What a file holds that only saves of fits have written. -/
structure CalibrationPayload where
  version : String
  plants : Dict String PlantScales
  deriving DecidableEq

def scalesOf (cal : PhysicsCalibration ℚ) : PlantScales :=
  ⟨cal.energyScale, cal.energyOffset, cal.carbonScale, cal.carbonOffset, cal.version⟩

def fitOf (plantCode : String) (scales : PlantScales) : PhysicsCalibration ℚ :=
  ⟨plantCode, scales.energyScale, scales.energyOffset, scales.carbonScale, scales.carbonOffset, scales.version⟩

def scalesValue (scales : PlantScales) : Yaml :=
  .map [(.text "energy_scale", .float (.finite scales.energyScale)),
    (.text "energy_offset", .float (.finite scales.energyOffset)),
    (.text "carbon_scale", .float (.finite scales.carbonScale)),
    (.text "carbon_offset", .float (.finite scales.carbonOffset)), (.text "version", .text scales.version)]

def plantsValue (plants : Dict String PlantScales) : Fields :=
  plants.items.map fun item => (.text item.1, scalesValue item.2)

def payloadValue (payload : CalibrationPayload) : Yaml :=
  .map [(.text "version", .text payload.version), (.text "plants", .map (plantsValue payload.plants))]

theorem plantsValue_set (plants : Dict String PlantScales) (name : String) (scales : PlantScales) :
    plantsValue (plants.set name scales) = upsert (.text name) (scalesValue scales) (plantsValue plants) := by
  unfold plantsValue Dict.set
  dsimp only
  induction plants.items with
  | nil => rfl
  | cons item rest ih =>
    unfold upsert
    by_cases same : item.1 = name
    · simp [same]
    · simp [same, ih]

theorem fieldsOf_orEmpty (fields : Fields) : fieldsOf (orEmpty (some (.map fields))) = .ok fields := by
  cases fields <;> rfl

theorem field_plantsValue (plants : Dict String PlantScales) (plantCode : String) :
    field (plantsValue plants) plantCode = (plants.get? plantCode).map scalesValue := by
  unfold field plantsValue Dict.get?
  induction plants.items with
  | nil => rfl
  | cons item rest ih =>
    rw [List.map_cons, List.lookup_cons, List.lookup_cons, ih]
    by_cases same : plantCode = item.1
    · simp [same]
    · have apart : (Key.text plantCode == .text item.1) = false := by simpa using same
      rw [apart, beq_false_of_ne same]

/-- The file has an entry for each of the plants and for no other. -/
def FileHolds (tools : Tools) (file : Option String) (plants : Dict String PlantScales) : Prop :=
  file = none ∧ plants = .empty ∨ ∃ version, file = some (tools.safeDump (payloadValue ⟨version, plants⟩))

/-- The YAML library loads again what it dumped of such a file. -/
def KeepsFile (tools : Tools) : Prop :=
  ∀ payload, tools.safeLoad (tools.safeDump (payloadValue payload)) = .ok (payloadValue payload)

/-- What is read of a plant: its entry, or the formulas as they are under the version of the file. -/
def heldFit (plants : Dict String PlantScales) (version plantCode : String) : PhysicsCalibration ℚ :=
  ((plants.get? plantCode).map (fitOf plantCode)).getD (uncorrected plantCode version)

section
variable {tools : Tools} {file : Option String} {plants : Dict String PlantScales}

theorem topLevel_holds (keeps : KeepsFile tools) (version : String) :
    topLevel tools (some (tools.safeDump (payloadValue ⟨version, plants⟩))) =
      .ok [(.text "version", .text version), (.text "plants", .map (plantsValue plants))] := by
  unfold topLevel
  dsimp only
  rw [keeps]
  rfl

theorem savedPlants_holds (keeps : KeepsFile tools) (holds : FileHolds tools file plants) :
    savedPlants tools file = .ok (plantsValue plants) := by
  rcases holds with ⟨rfl, rfl⟩ | ⟨version, rfl⟩
  · rfl
  · unfold savedPlants
    dsimp only
    rw [keeps]
    show asDict tools (orEmpty (some (.map (plantsValue plants)))) = _
    cases plantsValue plants <;> rfl

theorem saveCalibration_holds (keeps : KeepsFile tools) (holds : FileHolds tools file plants)
    {cal : PhysicsCalibration ℚ} {text : String} (saved : saveCalibration tools cal.floats file = .ok text) :
    text = tools.safeDump (payloadValue ⟨cal.version, plants.set cal.plantCode (scalesOf cal)⟩) := by
  unfold saveCalibration at saved
  rw [savedPlants_holds keeps holds] at saved
  cases saved
  unfold payloadValue
  rw [plantsValue_set]
  rfl

theorem loadCalibration_holds (keeps : KeepsFile tools) (holds : FileHolds tools file plants) :
    ∃ version, ∀ plantCode, loadCalibration tools plantCode file = .ok (heldFit plants version plantCode).floats := by
  rcases holds with ⟨rfl, rfl⟩ | ⟨version, rfl⟩
  · exact ⟨"default", fun plantCode => rfl⟩
  · refine ⟨version, fun plantCode => ?_⟩
    have top := @topLevel_holds tools plants keeps version
    have entry : plantEntry plantCode
        [(.text "version", .text version), (.text "plants", .map (plantsValue plants))] =
          fieldsOf (orEmpty ((plants.get? plantCode).map scalesValue)) := by
      have own : field [(.text "version", .text version), (.text "plants", .map (plantsValue plants))] "plants" =
          some (.map (plantsValue plants)) := rfl
      unfold plantEntry
      rw [own, fieldsOf_orEmpty]
      show fieldsOf (orEmpty (field _ plantCode)) = _
      rw [field_plantsValue]
    rw [loadCalibration_ok]
    unfold heldFit
    cases held : plants.get? plantCode with
    | none => exact ⟨_, [], top, entry.trans (by rw [held]; rfl), rfl⟩
    | some scales => exact ⟨_, _, top, entry.trans (by rw [held]; rfl), rfl⟩

end

theorem fitOf_scalesOf (cal : PhysicsCalibration ℚ) : fitOf cal.plantCode (scalesOf cal) = cal := rfl

theorem heldFit_set (plants : Dict String PlantScales) (cal : PhysicsCalibration ℚ) (version plantCode : String) :
    heldFit (plants.set cal.plantCode (scalesOf cal)) version plantCode =
      if plantCode = cal.plantCode then cal else heldFit plants version plantCode := by
  unfold heldFit
  rw [Dict.get?_set]
  split
  · rename_i own
    subst own
    exact fitOf_scalesOf cal
  · rfl

/-- Only the version of what is read depends on the version of the file. -/
theorem heldFit_version (plants : Dict String PlantScales) (before after plantCode : String) :
    ∃ version, heldFit plants after plantCode = { heldFit plants before plantCode with version := version } := by
  unfold heldFit
  cases plants.get? plantCode with
  | none => exact ⟨after, rfl⟩
  | some scales => exact ⟨scales.version, rfl⟩

end Iems.Ml.CalibrationFile
