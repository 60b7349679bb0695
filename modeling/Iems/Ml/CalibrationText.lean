import Iems.Lib.Scalars
import Iems.Lib.Split
import Iems.Ml.Calibration

/-! The text of a calibration file with complete entries, and the library that writes and reads it. -/
namespace Iems.Ml.CalibrationFile
open Lib

def entryLines (item : String × PlantScales) : List (List Char) :=
  [labelled "  " (plainText item.1 ++ [':']), labelled "    energy_scale: " (numberText item.2.energyScale),
    labelled "    energy_offset: " (numberText item.2.energyOffset),
    labelled "    carbon_scale: " (numberText item.2.carbonScale),
    labelled "    carbon_offset: " (numberText item.2.carbonOffset),
    labelled "    version: " (plainText item.2.version)]

def readEntries : List (List Char) → Option (List (String × PlantScales))
  | [[]] => some []
  | code :: es :: eo :: cs :: co :: version :: rest => do
    let energyScale ← readNumber (unlabelled "    energy_scale: " es)
    let energyOffset ← readNumber (unlabelled "    energy_offset: " eo)
    let carbonScale ← readNumber (unlabelled "    carbon_scale: " cs)
    let carbonOffset ← readNumber (unlabelled "    carbon_offset: " co)
    let later ← readEntries rest
    return (String.ofList (readPlain (unlabelled "  " code).dropLast), ⟨energyScale, energyOffset, carbonScale, carbonOffset,
      String.ofList (readPlain (unlabelled "    version: " version))⟩) :: later
  | _ => none

theorem readEntries_lines (items : List (String × PlantScales)) : readEntries (items.flatMap entryLines ++ [[]]) = some items := by
  induction items with
  | nil => rfl
  | cons item rest ih =>
    rw [List.flatMap_cons, List.append_assoc]
    show readEntries (_ :: _ :: _ :: _ :: _ :: _ :: (rest.flatMap entryLines ++ [[]])) = _
    rw [readEntries]
    simp only [unlabelled_labelled, readNumber_text, ih, List.dropLast_concat, readPlain_text, Option.bind_eq_bind,
      Option.bind_some, Option.pure_def]

def fileLines (version : String) (items : List (String × PlantScales)) : List (List Char) :=
  labelled "version: " (plainText version) :: (if items = [] then "plants: \x7b\x7d" else "plants:").toList ::
    items.flatMap entryLines

def fileText (version : String) (items : List (String × PlantScales)) : String :=
  String.ofList ((fileLines version items).flatMap fun line => line ++ ['\n'])

def readFile (text : String) : Option (String × List (String × PlantScales)) :=
  match splitAll '\n' text.toList with
  | version :: _ :: entries =>
    (readEntries entries).map fun items => (String.ofList (readPlain (unlabelled "version: " version)), items)
  | _ => none

theorem fileLines_line (version : String) (items : List (String × PlantScales)) :
    ∀ line ∈ fileLines version items, '\n' ∉ line := by
  have labels : ∀ label : String, '\n' ∉ label.toList → ∀ value : List Char, '\n' ∉ value → '\n' ∉ labelled label value :=
    fun label free value own held => (List.mem_append.mp held).elim free own
  intro line member
  unfold fileLines at member
  rcases List.mem_cons.mp member with rfl | member
  · exact labels _ (by decide) _ (plainText_line version)
  rcases List.mem_cons.mp member with rfl | member
  · split <;> decide
  obtain ⟨item, _, among⟩ := List.mem_flatMap.mp member
  simp only [entryLines, List.mem_cons, List.not_mem_nil, or_false] at among
  rcases among with rfl | rfl | rfl | rfl | rfl | rfl
  · refine labels _ (by decide) _ fun held => ?_
    rcases List.mem_append.mp held with own | colon
    · exact plainText_line item.1 own
    · exact absurd (List.mem_singleton.mp colon) (by decide)
  · exact labels _ (by decide) _ (numberText_line _)
  · exact labels _ (by decide) _ (numberText_line _)
  · exact labels _ (by decide) _ (numberText_line _)
  · exact labels _ (by decide) _ (numberText_line _)
  · exact labels _ (by decide) _ (plainText_line item.2.version)

theorem readFile_text (version : String) (items : List (String × PlantScales)) :
    readFile (fileText version items) = some (version, items) := by
  unfold readFile fileText
  rw [String.toList_ofList, splitAll_ended (fileLines_line version items)]
  unfold fileLines
  rw [List.cons_append, List.cons_append]
  dsimp only
  rw [readEntries_lines, Option.map_some, unlabelled_labelled, readPlain_text]

def scalesIn : Yaml → Option PlantScales
  | .map [(_, .float (.finite es)), (_, .float (.finite eo)), (_, .float (.finite cs)), (_, .float (.finite co)),
      (_, .text version)] => some ⟨es, eo, cs, co, version⟩
  | _ => none

def itemIn : Key × Yaml → Option (String × PlantScales)
  | (.text code, value) => (scalesIn value).map fun scales => (code, scales)
  | _ => none

def contentOf : Yaml → Option (String × List (String × PlantScales))
  | .map [(_, .text version), (_, .map plants)] => (plants.mapM itemIn).map fun items => (version, items)
  | _ => none

theorem contentOf_payload (payload : CalibrationPayload) :
    contentOf (payloadValue payload) = some (payload.version, payload.plants.items) := by
  have items : ∀ items : List (String × PlantScales),
      (items.map fun item => (Key.text item.1, scalesValue item.2)).mapM itemIn = some items := by
    intro items
    induction items with
    | nil => rfl
    | cons item rest ih =>
      rw [List.map_cons, List.mapM_cons, ih]
      rfl
  unfold payloadValue contentOf plantsValue
  dsimp only
  rw [items]
  rfl

/-- The library on files of complete entries, in their text. -/
def fileTools : Tools where
  safeLoad text :=
    match readFile text with
    | some content => .ok (.map [(.text "version", .text content.1),
        (.text "plants", .map (content.2.map fun item => (.text item.1, scalesValue item.2)))])
    | none => .error "YAMLError"
  safeDump value := ((contentOf value).map fun content => fileText content.1 content.2).getD ""
  parseFloat _ := none
  shown _ := ""

theorem fileTools_keeps : KeepsFile fileTools := by
  intro payload
  have dumped : fileTools.safeDump (payloadValue payload) = fileText payload.version payload.plants.items := by
    simp only [fileTools, contentOf_payload, Option.map_some, Option.getD_some]
  rw [dumped]
  simp only [fileTools, readFile_text]
  rfl

end Iems.Ml.CalibrationFile
