import Iems.Ingestion.PublishedQuality
import Iems.Ingestion.SessionSetup

/-! When a cached answer can be frozen: a set-up that stopped early behind the connected flag. -/
namespace Iems.Ingestion
open Lib Iems.Core Relation

variable {Node : Type} {cfg : Settings} {ids : NodeIds Node} {tagMap : TagMap} {server : Server}

theorem locate_some {text plantCode field : String} (located : locate tagMap text = some (plantCode, field)) :
    ∃ plant tag, tagMap.get? plantCode = some plant ∧ plant.tags.get? field = some tag ∧ tag.nodeId = text := by
  unfold locate at located
  obtain ⟨entry, member, found⟩ := List.exists_of_findSome?_eq_some located
  obtain ⟨item, itemMember, matched⟩ := List.exists_of_findSome?_eq_some found
  split at matched
  · rename_i same
    obtain ⟨samePlant, sameField⟩ := Prod.mk.inj (Option.some.inj matched)
    subst samePlant sameField
    exact ⟨entry.2, item.2, (Dict.get?_iff_mem _).mpr member, (Dict.get?_iff_mem _).mpr itemMember, same⟩
  · cases matched

/-- The node of some sensor field. -/
def IsSensor (ids : NodeIds Node) (tagMap : TagMap) (node : Node) : Prop :=
  ∃ plantCode field, SensorNode ids tagMap plantCode field node

/-- Subscriptions and cached samples are about sensor nodes only. -/
structure SensorsOnly (ids : NodeIds Node) (tagMap : TagMap) (s : Session Node) : Prop where
  clientOpen : s.connected = true → s.client = true
  requested : ∀ node ∈ s.requested, IsSensor ids tagMap node
  cached : ∀ plantCode plant field sample, tagMap.get? plantCode = some plant →
    s.cached plantCode field = some sample →
    ∃ tag node, plant.tags.get? field = some tag ∧ ids.parse tag.nodeId = some node ∧ IsSensor ids tagMap node

theorem sensorsOnly_fresh : SensorsOnly ids tagMap {} where
  clientOpen connected := by cases connected
  requested node member := by cases member
  cached plantCode plant field sample found held := by cases held

theorem sensorsOnly_move {s t : Session Node} (move : SetupMove ids tagMap server s t)
    (held : SensorsOnly ids tagMap s) : SensorsOnly ids tagMap t := by
  obtain ⟨opened, requested, cached⟩ := held
  cases move with
  | openPlant code =>
    refine ⟨opened, requested, fun plantCode plant field sample found held => ?_⟩
    rw [cached_openPlant] at held
    exact cached plantCode plant field sample found held
  | request _ sensor | subscribe _ sensor =>
    refine ⟨opened, fun node member => ?_, cached⟩
    rcases List.mem_cons.mp member with here | before
    · rw [here]
      exact ⟨_, _, sensor⟩
    · exact requested node before
  | seed _ sensor read =>
    refine ⟨opened, requested, fun plantCode plant field sample found held => ?_⟩
    rw [cached_store] at held
    split at held
    · rename_i same
      obtain ⟨rfl, rfl⟩ := same
      obtain ⟨again, tag, foundAgain, isField, present, parsed⟩ := sensor
      rw [found] at foundAgain
      cases foundAgain
      exact ⟨tag, _, present, parsed, _, _, _, tag, found, isField, present, parsed⟩
    · exact cached plantCode plant field sample found held

theorem sensorsOnly_connect {s : Session Node} (held : SensorsOnly ids tagMap s) :
    SensorsOnly ids tagMap (connect cfg ids tagMap server s).1 := by
  have opened : ∀ monitored, SensorsOnly ids tagMap { s with client := true, connected := true, monitored := monitored } :=
    fun _ => ⟨fun _ => rfl, held.requested, held.cached⟩
  exact connect_invariant (fun _ _ => sensorsOnly_move) held (opened _) (opened _)

theorem sensorsOnly_readOpen (keyed : Keyed tagMap) {plantCode : String} {plant : PlantTagMap}
    (found : tagMap.get? plantCode = some plant) {s : Session Node} (held : SensorsOnly ids tagMap s) :
    SensorsOnly ids tagMap (readOpen cfg ids server plant s).1 := by
  rcases @readOpen_cases _ cfg ids server plant s with ⟨same, _⟩ | ⟨out, polled, same⟩
  · rw [same]
    exact held
  · rw [same]
    refine ⟨held.clientOpen, held.requested, fun code other field sample foundOther stored => ?_⟩
    rw [cached_polled, keyed.code plantCode plant found] at stored
    split at stored
    · rename_i here
      subst here
      rw [found] at foundOther
      cases foundOther
      rcases pollFields_sample polled stored with before | ⟨isField, tag, node, present, parsed, _⟩
      · cases before
      · exact ⟨tag, node, present, parsed, code, field, plant, tag, found, isField, present, parsed⟩
    · exact held.cached code other field sample foundOther stored

theorem sensorsOnly_readPlant (keyed : Keyed tagMap) {plantCode : String} {plant : PlantTagMap}
    (found : tagMap.get? plantCode = some plant) {s : Session Node} (held : SensorsOnly ids tagMap s) :
    SensorsOnly ids tagMap (readPlant cfg ids tagMap server plant s).1 := by
  have connected := @sensorsOnly_connect _ cfg ids tagMap server s held
  unfold readPlant
  rw [ensure_eq]
  split
  · rename_i next error ran
    rw [ran] at connected
    exact connected
  · rename_i next ran
    rw [ran] at connected
    exact sensorsOnly_readOpen keyed found connected

theorem sensorsOnly_update (roundTrip : ∀ node, ids.parse (ids.print node) = some node) {node : Node}
    (sample : TagSample) {s : Session Node} (held : SensorsOnly ids tagMap s) (requested : node ∈ s.requested) :
    SensorsOnly ids tagMap (updateCache tagMap (ids.print node) sample s) := by
  unfold updateCache
  split
  · exact held
  · rename_i plantCode field located
    obtain ⟨plant, tag, found, present, same⟩ := locate_some located
    refine ⟨held.clientOpen, held.requested, fun code other name kept foundOther stored => ?_⟩
    rw [cached_store] at stored
    split at stored
    · rename_i here
      obtain ⟨rfl, rfl⟩ := here
      rw [found] at foundOther
      cases foundOther
      refine ⟨tag, node, present, ?_, held.requested node requested⟩
      rw [same]
      exact roundTrip node
    · exact held.cached code other name kept foundOther stored

theorem sensorsOnly_step [DecidableEq Node] (keyed : Keyed tagMap)
    (roundTrip : ∀ node, ids.parse (ids.print node) = some node) (s : Session Node) (event : SessionEvent Node)
    (held : SensorsOnly ids tagMap s) : SensorsOnly ids tagMap (sessionStep cfg ids tagMap s event) := by
  cases event with
  | connect server => exact sensorsOnly_connect held
  | readPlant plantCode server =>
    rw [sessionStep]
    split
    · exact held
    · rename_i plant found
      exact sensorsOnly_readPlant keyed found held
  | disconnect => exact ⟨fun connected => Bool.noConfusion connected, held.requested, held.cached⟩
  | notify n =>
    rw [sessionStep]
    split
    · rename_i requested
      exact sensorsOnly_update roundTrip n.sample held requested
    · exact held

theorem sensorsOnly_run [DecidableEq Node] (keyed : Keyed tagMap)
    (roundTrip : ∀ node, ids.parse (ids.print node) = some node) (events : List (SessionEvent Node)) :
    SensorsOnly ids tagMap (run (sessionStep cfg ids tagMap) {} events) :=
  run_invariant (sensorsOnly_step keyed roundTrip) sensorsOnly_fresh

/-- A session that was open before the read, or whose set-up completes within it. -/
theorem readPlant_cached {plant : PlantTagMap} {s : Session Node} {samples : Dict String TagSample}
    (answered : (readPlant cfg ids tagMap server plant s).2 = .cached samples) :
    ∃ next, (readPlant cfg ids tagMap server plant s).1 = next ∧ next = (connect cfg ids tagMap server s).1 ∧
      next.client = true ∧ cfg.opcUaUseSubscription = true ∧ (s.connected = true ∧ next = s ∨ AllMonitored ids tagMap next) ∧
      ∀ field sample, samples.get? field = some sample → next.cached plant.code field = some sample := by
  unfold readPlant at answered ⊢
  rw [ensure_eq] at answered ⊢
  split at answered
  · cases answered
  · rename_i next ran
    rw [ran]
    obtain ⟨same, opened, subscribes, held⟩ := readOpen_cached answered
    refine ⟨next, same, rfl, opened, subscribes, ?_, held⟩
    rcases @connect_cases _ cfg ids tagMap server s with ⟨connected, kept⟩ | ⟨_, error, failed⟩ | ⟨_, polls, _⟩ | ⟨_, _, done⟩
    · rw [kept] at ran
      cases ran
      exact Or.inl ⟨connected, rfl⟩
    · rw [failed] at ran
      cases ran
    · rw [subscribes] at polls
      cases polls
    · rw [done] at ran
      exact Or.inr (setupSubscriptions_allMonitored ran)

/-! ### Set-ups that finish -/

def SessionEvent.closes : SessionEvent Node → Bool
  | .disconnect => true
  | _ => false

/-- The server that an event's connect would meet; a plant that the tag map lacks is refused before. -/
def SessionEvent.connectsTo (tagMap : TagMap) : SessionEvent Node → Option Server
  | .connect server => some server
  | .readPlant plantCode server => (tagMap.get? plantCode).map fun _ => server
  | _ => none

/-- A set-up that the event starts subscribes to every sensor node of the tag map. -/
def SetsUp (cfg : Settings) (ids : NodeIds Node) (tagMap : TagMap) (s : Session Node) (event : SessionEvent Node) : Prop :=
  s.connected = false → ∀ server, event.connectsTo tagMap = some server → Reaches cfg server →
    ∀ plantCode field node, SensorNode ids tagMap plantCode field node → node ∈ subscribedBy ids tagMap server

/-- Every set-up of the run does, but for those that a disconnect ends within the run. -/
def SetupsFinish [DecidableEq Node] (cfg : Settings) (ids : NodeIds Node) (tagMap : TagMap) (s : Session Node) :
    List (SessionEvent Node) → Prop
  | [] => True
  | event :: rest => (rest.any SessionEvent.closes ∨ SetsUp cfg ids tagMap s event) ∧
      SetupsFinish cfg ids tagMap (sessionStep cfg ids tagMap s event) rest

/-- Closed with no subscription left over, or open. -/
def Cleared (s : Session Node) : Prop := s.connected = false → s.monitored = none

/-- Closed, or open with every sensor node of the tag map monitored. -/
def Watched (ids : NodeIds Node) (tagMap : TagMap) (s : Session Node) : Prop :=
  s.connected = true → AllMonitored ids tagMap s

/-- A connect leaves a session watched exactly where its set-up subscribes to every sensor node. -/
theorem watched_connect (subscribes : cfg.opcUaUseSubscription = true) {s : Session Node} (cleared : Cleared s) :
    Cleared (connect cfg ids tagMap server s).1 ∧
      (Watched ids tagMap (connect cfg ids tagMap server s).1 ↔ Watched ids tagMap s ∧
        (s.connected = false → Reaches cfg server → ∀ plantCode field node, SensorNode ids tagMap plantCode field node →
          node ∈ subscribedBy ids tagMap server)) := by
  cases closed : s.connected with
  | true =>
    have same : connect cfg ids tagMap server s = (s, none) := by
      unfold connect
      rw [if_pos closed]
    rw [same]
    exact ⟨cleared, by simp⟩
  | false =>
    have start : Watched ids tagMap s := fun open_ => absurd open_ (Bool.eq_false_iff.mp closed)
    rcases @connect_subscribes _ cfg ids tagMap server subscribes s closed (cleared closed) with
      ⟨unreached, same⟩ | ⟨reached, connected, monitored⟩
    · rw [same]
      exact ⟨cleared, fun watched => ⟨watched, fun _ reached => absurd reached unreached⟩, And.left⟩
    · refine ⟨fun stillClosed => Bool.noConfusion (connected.symm.trans stillClosed), fun watched => ⟨start, ?_⟩, ?_⟩
      · intro _ _ plantCode field node sensor
        exact (monitored node).mp (watched connected plantCode field node sensor)
      · rintro ⟨_, all⟩ _ plantCode field node sensor
        exact (monitored node).mpr (all rfl reached plantCode field node sensor)

theorem readPlant_connection (plant : PlantTagMap) (s : Session Node) :
    (readPlant cfg ids tagMap server plant s).1.connected = (connect cfg ids tagMap server s).1.connected ∧
      (readPlant cfg ids tagMap server plant s).1.monitored = (connect cfg ids tagMap server s).1.monitored := by
  unfold readPlant
  rw [ensure_eq]
  split
  · rename_i ran
    rw [ran]
    exact ⟨rfl, rfl⟩
  · rename_i next ran
    rw [ran]
    rcases @readOpen_cases _ cfg ids server plant next with ⟨same, _⟩ | ⟨out, _, same⟩ <;> rw [same] <;> exact ⟨rfl, rfl⟩

theorem updateCache_connection (text : String) (sample : TagSample) (s : Session Node) :
    (updateCache tagMap text sample s).connected = s.connected ∧ (updateCache tagMap text sample s).monitored = s.monitored := by
  unfold updateCache
  split <;> exact ⟨rfl, rfl⟩

theorem watched_congr {s t : Session Node} (same : t.connected = s.connected ∧ t.monitored = s.monitored) :
    (Cleared t ↔ Cleared s) ∧ (Watched ids tagMap t ↔ Watched ids tagMap s) := by
  unfold Cleared Watched AllMonitored Session.isMonitored
  rw [same.1, same.2]
  exact ⟨Iff.rfl, Iff.rfl⟩

section
variable [DecidableEq Node]

/-- What a step needs for a watched session: the set-up that it starts, and what was watched unless it closes. -/
theorem watched_step (subscribes : cfg.opcUaUseSubscription = true) {s : Session Node} (cleared : Cleared s)
    (event : SessionEvent Node) :
    Cleared (sessionStep cfg ids tagMap s event) ∧ (Watched ids tagMap (sessionStep cfg ids tagMap s event) ↔
      SetsUp cfg ids tagMap s event ∧ (event.closes = true ∨ Watched ids tagMap s)) := by
  have noSetup : ∀ other : SessionEvent Node, other.connectsTo tagMap = none → SetsUp cfg ids tagMap s other := by
    intro other none_ _ server own
    rw [none_] at own
    cases own
  cases event with
  | connect server =>
    obtain ⟨kept, watched⟩ := @watched_connect _ cfg ids tagMap server subscribes s cleared
    refine ⟨kept, watched.trans ?_⟩
    simp [SetsUp, SessionEvent.connectsTo, SessionEvent.closes, and_comm]
  | readPlant plantCode server =>
    rw [sessionStep]
    cases found : tagMap.get? plantCode with
    | none =>
      have none_ : (SessionEvent.readPlant plantCode server : SessionEvent Node).connectsTo tagMap = none := by
        simp [SessionEvent.connectsTo, found]
      exact ⟨cleared, by simp [noSetup _ none_, SessionEvent.closes]⟩
    | some plant =>
      obtain ⟨kept, watched⟩ := @watched_connect _ cfg ids tagMap server subscribes s cleared
      have same := @watched_congr _ ids tagMap _ _ (@readPlant_connection _ cfg ids tagMap server plant s)
      refine ⟨same.1.mpr kept, same.2.trans (watched.trans ?_)⟩
      simp [SetsUp, SessionEvent.connectsTo, SessionEvent.closes, found, and_comm]
  | disconnect =>
    exact ⟨fun _ => rfl, fun _ => ⟨noSetup _ rfl, .inl rfl⟩, fun _ connected => Bool.noConfusion connected⟩
  | notify n =>
    have same : (sessionStep cfg ids tagMap s (.notify n)).connected = s.connected ∧
        (sessionStep cfg ids tagMap s (.notify n)).monitored = s.monitored := by
      rw [sessionStep]
      split
      · exact updateCache_connection _ _ s
      · exact ⟨rfl, rfl⟩
    have kept := @watched_congr _ ids tagMap _ _ same
    exact ⟨kept.1.mpr cleared, kept.2.trans (by simp [noSetup (.notify n) rfl, SessionEvent.closes])⟩

/-- A run leaves its session watched exactly where its set-ups finish, but for those that it closes. -/
theorem watched_run (subscribes : cfg.opcUaUseSubscription = true) (events : List (SessionEvent Node)) {s : Session Node}
    (cleared : Cleared s) : Watched ids tagMap (run (sessionStep cfg ids tagMap) s events) ↔
      SetupsFinish cfg ids tagMap s events ∧ (events.any SessionEvent.closes = true ∨ Watched ids tagMap s) := by
  induction events generalizing s with
  | nil => simp [SetupsFinish, run]
  | cons event rest ih =>
    obtain ⟨kept, watched⟩ := @watched_step _ cfg ids tagMap _ subscribes s cleared event
    rw [run_cons, ih kept, watched, SetupsFinish, List.any_cons, Bool.or_eq_true]
    tauto

end

theorem cachedAnswer_monitored [DecidableEq Node] (cfg : Settings) (ids : NodeIds Node)
    (roundTrip : ∀ node, ids.parse (ids.print node) = some node) (raw : Dict String RawPlant) (tagMap : TagMap)
    (loaded : loadTagMap raw = some tagMap) (events : List (SessionEvent Node)) (plantCode : String)
    (plant : PlantTagMap) (found : tagMap.get? plantCode = some plant) (server : Server)
    (finish : SetupsFinish cfg ids tagMap {} events) (samples : Dict String TagSample)
    (answered : (readPlant cfg ids tagMap server plant (run (sessionStep cfg ids tagMap) {} events)).2 =
      .cached samples) :
    let after := (readPlant cfg ids tagMap server plant (run (sessionStep cfg ids tagMap) {} events)).1
    after.client = true ∧ ∀ field sample, samples.get? field = some sample →
      ∃ tag node, plant.tags.get? field = some tag ∧ ids.parse tag.nodeId = some node ∧
        after.isMonitored node := by
  intro after
  have keyed := loadTagMap_keyed loaded
  have sound := @sensorsOnly_run _ cfg _ _ _ keyed roundTrip events
  obtain ⟨next, same, connected, opened, subscribes, setup, held⟩ := readPlant_cached answered
  have watched : Watched ids tagMap (run (sessionStep cfg ids tagMap) {} events) :=
    (watched_run subscribes events fun _ => rfl).mpr ⟨finish, .inr fun open_ => Bool.noConfusion open_⟩
  have soundNext : SensorsOnly ids tagMap next := by
    rw [connected]
    exact sensorsOnly_connect sound
  have monitored : AllMonitored ids tagMap next := by
    rcases setup with ⟨before, unchanged⟩ | complete
    · rw [unchanged]
      exact watched before
    · exact complete
  have afterNext : after = next := same
  rw [afterNext]
  refine ⟨opened, fun field sample returned => ?_⟩
  have stored := held field sample returned
  rw [keyed.code plantCode plant found] at stored
  obtain ⟨tag, node, present, parsed, code, other, sensor⟩ := soundNext.cached plantCode plant field sample found stored
  exact ⟨tag, node, present, parsed, monitored code other node sensor⟩

/-! ### A subscription that fails behind the connected flag -/

/-- Refuses the subscription of the steam flow. -/
def refusingServer : Server := { steadyServer with subscribes := fun _ field => field != "steam_flow_tonh" }

theorem steady_subscribes : ∀ plantCode field node, SensorNode textIds olefinTags plantCode field node →
    node ∈ subscribedBy textIds olefinTags steadyServer := by
  have listed : ∀ field ∈ sensorFields, ∀ tag ∈ olefinPlant.tags.get? field,
      tag.nodeId ∈ subscribedBy textIds olefinTags steadyServer := by decide +kernel
  rintro plantCode field node ⟨plant, tag, found, sensor, present, parsed⟩
  have only : plant = olefinPlant := by
    rw [olefinTags, Dict.get?_set] at found
    split at found
    · exact (Option.some.inj found).symm
    · cases found
  subst only
  cases parsed
  exact listed field sensor tag present

/-- After a refused set-up was closed and the next one went through. -/
theorem cachedAnswer_monitored_olefin :
    let events : List (SessionEvent String) := [.connect refusingServer, .disconnect, .connect steadyServer]
    let after := (readPlant connectedCfg textIds olefinTags steadyServer olefinPlant
      (run (sessionStep connectedCfg textIds olefinTags) {} events)).1
    after.client = true ∧ ∀ field sample, (olefinSamples (some (.finite 10))).get? field = some sample →
      ∃ tag node, olefinPlant.tags.get? field = some tag ∧ textIds.parse tag.nodeId = some node ∧
        after.isMonitored node := by
  intro events
  have finish : SetupsFinish connectedCfg textIds olefinTags {} events := by
    refine ⟨.inl rfl, .inr fun _ _ none_ => ?_, .inr fun _ server own _ => ?_, trivial⟩
    · cases none_
    · cases own
      exact steady_subscribes
  exact cachedAnswer_monitored connectedCfg textIds (fun _ => rfl) rawOlefin olefinTags rawOlefin_loads events "olefin"
    olefinPlant (by decide) steadyServer finish (olefinSamples (some (.finite 10))) (by decide +kernel)

/-- The refused set-up leaves the session connected; one poll fills the cache, which then answers. -/
def refusedThenPolled : List (SessionEvent String) :=
  [.connect refusingServer, .readPlant "olefin" steadyServer]

theorem cachedAnswer_unmonitored :
    ¬ ∀ (cfg : Settings) (ids : NodeIds String), (∀ node, ids.parse (ids.print node) = some node) →
      ∀ (raw : Dict String RawPlant) (tagMap : TagMap), loadTagMap raw = some tagMap →
      cfg.opcUaUseSubscription = true →
      ∀ (events : List (SessionEvent String)) (plantCode : String) (plant : PlantTagMap) (server : Server)
        (samples : Dict String TagSample), tagMap.get? plantCode = some plant →
      (readPlant cfg ids tagMap server plant (run (sessionStep cfg ids tagMap) {} events)).2 = .cached samples →
      ∀ field sample, samples.get? field = some sample →
        ∃ tag node, plant.tags.get? field = some tag ∧ ids.parse tag.nodeId = some node ∧
          (readPlant cfg ids tagMap server plant (run (sessionStep cfg ids tagMap) {} events)).1.isMonitored node := by
  intro claim
  obtain ⟨tag, node, present, parsed, nodes, subscribed, member⟩ :=
    claim connectedCfg textIds (fun _ => rfl) rawOlefin olefinTags rawOlefin_loads rfl refusedThenPolled "olefin"
      olefinPlant steadyServer (olefinSamples (some (.finite 10))) (by decide) (by decide +kernel) "pressure_bar"
      (goodSample (some (.finite 10))) (by decide +kernel)
  have held : (readPlant connectedCfg textIds olefinTags steadyServer olefinPlant
      (run (sessionStep connectedCfg textIds olefinTags) {} refusedThenPolled)).1.monitored =
        some ["ns=2;s=Olefin.fuel_gas_flow_km3h", "ns=2;s=Olefin.electricity_power_mw"] := by decide +kernel
  have mapped : olefinPlant.tags.get? "pressure_bar" = some (olefinTag "pressure_bar") := by decide +kernel
  rw [mapped] at present
  cases present
  cases parsed
  rw [held] at subscribed
  cases subscribed
  exact absurd member (by decide +kernel)

end Iems.Ingestion
