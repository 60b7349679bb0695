import Iems.Core.Config
import Iems.Core.Timestamp
import Iems.Ingestion.Quality
import Iems.Ingestion.TagMap
import Iems.Lib.ExtRat
import Iems.Lib.Runs

/-! The long-lived OPC-UA session: its connection, its subscription and its sample cache. -/
namespace Iems.Ingestion
open Lib Iems.Core

structure TagSample where
  value : Option ExtRat
  quality : QualityCode
  statusCode : Option Int
  serverTimestamp : Option Timestamp
  sourceTimestamp : Option Timestamp
  deriving DecidableEq

/-- A tag's value as `float` takes it: `other` is what it refuses. -/
inductive OpcValue where
  | null
  | number (value : ExtRat)
  | other
  deriving DecidableEq

structure DataValue where
  value : OpcValue
  statusCode : Option Int
  serverTimestamp : Option Timestamp
  sourceTimestamp : Option Timestamp
  deriving DecidableEq

def floatOf (value : OpcValue) (quality : QualityCode) : Option ExtRat × QualityCode :=
  match value with
  | .null => (none, quality)
  | .number x => (some x, quality)
  | .other => (none, .bad)

/-- `none` stands for a read that raised. -/
def readDatavalue : Option DataValue → TagSample
  | none => ⟨none, .bad, none, none, none⟩
  | some dv =>
    let (value, quality) := floatOf dv.value (statusCodeToQuality dv.statusCode)
    { value := value
      quality := quality
      statusCode := dv.statusCode
      serverTimestamp := dv.serverTimestamp.map Timestamp.assumeUtc
      sourceTimestamp := dv.sourceTimestamp.map Timestamp.assumeUtc }

/-- `data` is the data value of the monitored item, where the library passes one. -/
structure Notification (Node : Type) where
  node : Node
  value : OpcValue
  data : Option DataValue

/-- The sample of `datachange_notification`, with the timestamps as they come. -/
def Notification.sample {Node : Type} (n : Notification Node) : TagSample :=
  match n.data with
  | none =>
    let (value, quality) := floatOf n.value .good
    ⟨value, quality, none, none, none⟩
  | some dv =>
    let (value, quality) := floatOf n.value (statusCodeToQuality dv.statusCode)
    ⟨value, quality, dv.statusCode, dv.serverTimestamp, dv.sourceTimestamp⟩

/-- The node ids of the OPC library: `get_node` on a text, and `nodeid.to_string`. -/
structure NodeIds (Node : Type) where
  parse : String → Option Node
  print : Node → String

inductive ReadOutcome where
  | value (dv : DataValue)
  | raised
  | cancelled

/-- What the OPC library does at each await of one call. -/
structure Server where
  missingLibrary : Bool := false
  connects : Bool := true
  createsSubscription : Bool := true
  subscribes : String → String → Bool := fun _ _ => true
  read : String → String → ReadOutcome := fun _ _ => .raised

inductive SessionError where
  | runtimeError (message : String)
  | assertion
  | nodeId (text : String)
  | connect
  | createSubscription
  | subscribe (plantCode field : String)
  | cancelled
  deriving DecidableEq

/-- `monitored` are the nodes of the open subscription; `requested` collects every node that a
subscription was ever asked for, which are the nodes that notifications can come from. -/
structure Session (Node : Type) where
  client : Bool := false
  connected : Bool := false
  monitored : Option (List Node) := none
  requested : List Node := []
  cache : Dict String (Dict String TagSample) := .empty

variable {Node : Type}

def Session.isMonitored (s : Session Node) (node : Node) : Prop := ∃ nodes, s.monitored = some nodes ∧ node ∈ nodes

def Session.request (s : Session Node) (node : Node) : Session Node := { s with requested := node :: s.requested }

def Session.monitor (s : Session Node) (node : Node) : Session Node :=
  { s with monitored := s.monitored.map (node :: ·) }

/-- `self._cache.setdefault(plant_code, {})[field] = sample`. -/
def storeSample (cache : Dict String (Dict String TagSample)) (plantCode field : String) (sample : TagSample) :
    Dict String (Dict String TagSample) :=
  cache.set plantCode (((cache.get? plantCode).getD .empty).set field sample)

def Session.store (s : Session Node) (plantCode field : String) (sample : TagSample) : Session Node :=
  { s with cache := storeSample s.cache plantCode field sample }

def Session.cached (s : Session Node) (plantCode field : String) : Option TagSample :=
  (s.cache.get? plantCode).bind fun samples => samples.get? field

section
variable (cfg : Settings) (ids : NodeIds Node) (tagMap : TagMap)

def readNode (server : Server) (plantCode field : String) : Except SessionError TagSample :=
  match server.read plantCode field with
  | .value dv => .ok (readDatavalue (some dv))
  | .raised => .ok (readDatavalue none)
  | .cancelled => .error .cancelled

/-- The inner loop of the set-up: subscribe to each tag, then seed its sample. -/
def setupFields (server : Server) (plantCode : String) (plant : PlantTagMap) :
    List String → Session Node → Session Node × Option SessionError
  | [], s => (s, none)
  | field :: rest, s =>
    match plant.tags.get? field with
    | none => setupFields server plantCode plant rest s
    | some tag =>
      match ids.parse tag.nodeId with
      | none => (s, some (.nodeId tag.nodeId))
      | some node =>
        if server.subscribes plantCode field then
          let subscribed := (s.request node).monitor node
          match readNode server plantCode field with
          | .error error => (subscribed, some error)
          | .ok sample => setupFields server plantCode plant rest (subscribed.store plantCode field sample)
        else (s.request node, some (.subscribe plantCode field))

def setupPlants (server : Server) : List (String × PlantTagMap) → Session Node → Session Node × Option SessionError
  | [], s => (s, none)
  | (plantCode, plant) :: rest, s =>
    let opened := { s with cache := s.cache.setDefault plantCode .empty }
    match setupFields ids server plantCode plant sensorFields opened with
    | (next, none) => setupPlants server rest next
    | (next, some error) => (next, some error)

def setupSubscriptions (server : Server) (s : Session Node) : Session Node × Option SessionError :=
  if server.createsSubscription then setupPlants ids server tagMap.items { s with monitored := some [] }
  else (s, some .createSubscription)

/-- The connected flag is up before the subscriptions are. -/
def connect (server : Server) (s : Session Node) : Session Node × Option SessionError :=
  if s.connected then (s, none)
  else if cfg.opcUaEndpoint = "" then
    (s, some (.runtimeError "OPC_UA_ENDPOINT is required for plant connect"))
  else if server.missingLibrary then
    (s, some (.runtimeError "OPC-UA mode requires asyncua. Install with: pip install 'iems[opcua]'"))
  else if server.connects then
    let opened := { s with client := true, connected := true }
    if cfg.opcUaUseSubscription then setupSubscriptions ids tagMap server opened else (opened, none)
  else (s, some .connect)

/-- The cache outlives the connection. -/
def disconnect (s : Session Node) : Session Node :=
  { s with client := false, connected := false, monitored := none }

def ensure (server : Server) (s : Session Node) : Session Node × Option SessionError :=
  if s.connected then (s, none) else connect cfg ids tagMap server s

inductive PlantRead where
  | cached (samples : Dict String TagSample)
  | polled (samples : Dict String TagSample)
  | failed (error : SessionError)
  deriving DecidableEq

def PlantRead.samples : PlantRead → Except SessionError (Dict String TagSample)
  | .cached samples => .ok samples
  | .polled samples => .ok samples
  | .failed error => .error error

def mappedFields (plant : PlantTagMap) : List String := sensorFields.filter fun field => (plant.tags.get? field).isSome

/-- The samples of `read_plant` that need no poll. -/
def cacheAnswer (s : Session Node) (plant : PlantTagMap) : Option (Dict String TagSample) :=
  if cfg.opcUaUseSubscription then
    (s.cache.get? plant.code).filter fun cached => (mappedFields plant).length ≤ cached.items.length
  else none

def pollFields (server : Server) (plant : PlantTagMap) :
    List String → Dict String TagSample → Except SessionError (Dict String TagSample)
  | [], out => .ok out
  | field :: rest, out =>
    match plant.tags.get? field with
    | none => pollFields server plant rest out
    | some tag =>
      match ids.parse tag.nodeId with
      | none => .error (.nodeId tag.nodeId)
      | some _ =>
        match readNode server plant.code field with
        | .error error => .error error
        | .ok sample => pollFields server plant rest (out.set field sample)

def readOpen (server : Server) (plant : PlantTagMap) (s : Session Node) : Session Node × PlantRead :=
  if s.client then
    match cacheAnswer cfg s plant with
    | some samples => (s, .cached samples)
    | none =>
      match pollFields ids server plant sensorFields .empty with
      | .error error => (s, .failed error)
      | .ok out => ({ s with cache := s.cache.set plant.code out }, .polled out)
  else (s, .failed .assertion)

def readPlant (server : Server) (plant : PlantTagMap) (s : Session Node) : Session Node × PlantRead :=
  match ensure cfg ids tagMap server s with
  | (next, some error) => (next, .failed error)
  | (next, none) => readOpen cfg ids server plant next

/-- The first tag with that node id, in the order of the map. -/
def locate (text : String) : Option (String × String) :=
  tagMap.items.findSome? fun entry =>
    entry.2.tags.items.findSome? fun item => if item.2.nodeId = text then some (entry.1, item.1) else none

def updateCache (text : String) (sample : TagSample) (s : Session Node) : Session Node :=
  match locate tagMap text with
  | none => s
  | some (plantCode, field) => s.store plantCode field sample

inductive SessionEvent (Node : Type) where
  | connect (server : Server)
  | readPlant (plantCode : String) (server : Server)
  | disconnect
  | notify (n : Notification Node)

/-- A plant that the tag map lacks is refused before the session is asked. -/
def sessionStep [DecidableEq Node] (s : Session Node) : SessionEvent Node → Session Node
  | .connect server => (connect cfg ids tagMap server s).1
  | .readPlant plantCode server =>
    match tagMap.get? plantCode with
    | none => s
    | some plant => (readPlant cfg ids tagMap server plant s).1
  | .disconnect => disconnect s
  | .notify n => if n.node ∈ s.requested then updateCache tagMap (ids.print n.node) n.sample s else s

end

def connectedCfg : Settings := { plantConnect := true, opcUaEndpoint := "opc.tcp://plant:4840" }

def textIds : NodeIds String := ⟨some, id⟩

def steadyServer : Server where
  read := fun _ _ => .value ⟨.number (.finite 10), some 0, none, none⟩

end Iems.Ingestion
