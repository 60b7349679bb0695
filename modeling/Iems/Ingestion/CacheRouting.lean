import Iems.Ingestion.PublishedQuality
import Iems.Ingestion.SessionSetup

/-! Which notification a cached sample comes from, and which tag maps route them all home. -/
namespace Iems.Ingestion
open Lib Iems.Core Relation

variable {Node : Type} {cfg : Settings} {ids : NodeIds Node} {tagMap : TagMap} {server : Server}

/-- Each sensor field is the first tag that carries the printed id of its node. -/
def RoutesHome (ids : NodeIds Node) (tagMap : TagMap) : Prop :=
  ∀ plantCode field node, SensorNode ids tagMap plantCode field node →
    locate tagMap (ids.print node) = some (plantCode, field)

theorem sensorNode_unique {plantCode field : String} {node other : Node}
    (first : SensorNode ids tagMap plantCode field node) (second : SensorNode ids tagMap plantCode field other) :
    node = other := by
  obtain ⟨plant, tag, found, _, present, parsed⟩ := first
  obtain ⟨plantAgain, tagAgain, foundAgain, _, presentAgain, parsedAgain⟩ := second
  rw [found] at foundAgain
  cases foundAgain
  rw [present] at presentAgain
  cases presentAgain
  rw [parsed] at parsedAgain
  exact Option.some.inj parsedAgain

/-- A session whose subscriptions are just set up: only sensor nodes are monitored, and each sensor
field holds its seed. -/
structure FreshlySeeded (ids : NodeIds Node) (tagMap : TagMap) (server : Server) (s : Session Node) : Prop where
  requested : ∀ node, s.isMonitored node → node ∈ s.requested
  sensor : ∀ node, s.isMonitored node → ∃ plantCode field, SensorNode ids tagMap plantCode field node
  monitored : AllMonitored ids tagMap s
  seeded : ∀ plantCode field node, SensorNode ids tagMap plantCode field node →
    s.cached plantCode field = (readNode server plantCode field).toOption

/-- A set-up monitors sensor nodes only, and each after a request for it. -/
theorem moves_monitoredOnly {s t : Session Node} (moves : Relation.ReflTransGen (SetupMove ids tagMap server) s t)
    (held : ∀ node, s.isMonitored node →
      node ∈ s.requested ∧ ∃ plantCode field, SensorNode ids tagMap plantCode field node) :
    ∀ node, t.isMonitored node → node ∈ t.requested ∧ ∃ plantCode field, SensorNode ids tagMap plantCode field node := by
  refine @moves_invariant _ _ (fun t => ∀ node, t.isMonitored node →
    node ∈ t.requested ∧ ∃ plantCode field, SensorNode ids tagMap plantCode field node) _ _ ?_ moves held
  intro before after move held
  cases move with
  | openPlant | seed => exact held
  | request =>
    intro node monitored
    obtain ⟨requested, sensor⟩ := held node monitored
    exact ⟨List.mem_cons_of_mem _ requested, sensor⟩
  | subscribe _ sensor =>
    rintro node ⟨nodes, subscribed, member⟩
    obtain ⟨earlier, was, rfl⟩ := Option.map_eq_some_iff.mp subscribed
    rcases List.mem_cons.mp member with here | before
    · rw [here]
      exact ⟨List.mem_cons_self, _, _, sensor⟩
    · obtain ⟨requested, sensor⟩ := held node ⟨earlier, was, before⟩
      exact ⟨List.mem_cons_of_mem _ requested, sensor⟩

theorem connect_freshlySeeded {s next : Session Node} (closed : s.connected = false)
    (subscribes : cfg.opcUaUseSubscription = true) (done : connect cfg ids tagMap server s = (next, none)) :
    FreshlySeeded ids tagMap server next := by
  have setup : setupSubscriptions ids tagMap server { s with client := true, connected := true } = (next, none) := by
    rcases @connect_cases _ cfg ids tagMap server s with ⟨subscribed, _⟩ | ⟨_, error, failed⟩ | ⟨_, polls, _⟩ | ⟨_, _, ran⟩
    · rw [closed] at subscribed
      cases subscribed
    · rw [failed] at done
      cases done
    · rw [subscribes] at polls
      cases polls
    · rw [← ran, done]
  have monitoredOnly : ∀ node, next.isMonitored node →
      node ∈ next.requested ∧ ∃ plantCode field, SensorNode ids tagMap plantCode field node := by
    rcases @setupSubscriptions_cases _ ids tagMap server { s with client := true, connected := true } with failed | ran
    · rw [failed] at setup
      cases setup
    · have moves := @setupPlants_moves _ ids tagMap server _ (List.Subset.refl tagMap.items)
        { s with client := true, connected := true, monitored := some [] }
      rw [← ran, setup] at moves
      apply moves_monitoredOnly moves
      rintro node ⟨nodes, subscribed, member⟩
      cases subscribed
      cases member
  refine ⟨fun node held => (monitoredOnly node held).1, fun node held => (monitoredOnly node held).2,
    setupSubscriptions_allMonitored setup, ?_⟩
  rintro plantCode field node ⟨plant, tag, found, sensor, present, parsed⟩
  obtain ⟨_, sample, _, _, read, held⟩ := setupSubscriptions_done setup plantCode plant found field sensor tag present
  rw [held, read]
  rfl

theorem updateCache_requested (text : String) (sample : TagSample) (s : Session Node) :
    (updateCache tagMap text sample s).requested = s.requested := by
  unfold updateCache
  split <;> rfl

theorem cached_update (text : String) (sample : TagSample) (s : Session Node) (plantCode field : String) :
    (updateCache tagMap text sample s).cached plantCode field =
      if locate tagMap text = some (plantCode, field) then some sample else s.cached plantCode field := by
  unfold updateCache
  split
  · rename_i nowhere
    rw [nowhere]
    rfl
  · rename_i code other located
    rw [cached_store, located]
    simp only [Option.some.injEq, Prod.mk.injEq, eq_comm]

theorem differing_notification (node : Node) (seed : Option TagSample) :
    ∃ n : Notification Node, n.node = node ∧ seed ≠ some n.sample := by
  by_cases zero : seed = some (Notification.sample ⟨node, .number (.finite 0), none⟩)
  · refine ⟨⟨node, .number (.finite 1), none⟩, rfl, ?_⟩
    rw [zero]
    intro same
    have equal := congrArg TagSample.value (Option.some.inj same)
    exact absurd (ExtRat.finite.inj (Option.some.inj equal)) (by norm_num)
  · exact ⟨_, rfl, zero⟩

variable [DecidableEq Node]

/-- The sample of the last notification for the node, or the seed without one. -/
def lastCarried (node : Node) (seed : Option TagSample) (notifications : List (Notification Node)) : Option TagSample :=
  ((notifications.filter fun n => n.node = node).getLast?.map Notification.sample).or seed

theorem lastCarried_snoc (node : Node) (seed : Option TagSample) (before : List (Notification Node)) (n : Notification Node) :
    lastCarried node seed (before ++ [n]) = if n.node = node then some n.sample else lastCarried node seed before := by
  unfold lastCarried
  rw [List.filter_append]
  by_cases same : n.node = node <;> simp [same]

theorem notify_step {s : Session Node} {n : Notification Node} (requested : n.node ∈ s.requested) :
    sessionStep cfg ids tagMap s (.notify n) = updateCache tagMap (ids.print n.node) n.sample s := by
  rw [sessionStep, if_pos requested]

theorem notified_requested {s : Session Node} (notifications : List (Notification Node)) :
    (run (sessionStep cfg ids tagMap) s (notifications.map .notify)).requested = s.requested := by
  induction notifications generalizing s with
  | nil => rfl
  | cons n rest ih =>
    rw [List.map_cons, run_cons, ih, sessionStep]
    split
    · exact updateCache_requested _ _ s
    · rfl

theorem cached_notified {s : Session Node} (notifications : List (Notification Node))
    (requested : ∀ n ∈ notifications, n.node ∈ s.requested)
    {plantCode field : String} {node : Node}
    (routed : ∀ n ∈ notifications, locate tagMap (ids.print n.node) = some (plantCode, field) ↔ n.node = node) :
    (run (sessionStep cfg ids tagMap) s (notifications.map .notify)).cached plantCode field =
      lastCarried node (s.cached plantCode field) notifications := by
  induction notifications using List.reverseRecOn with
  | nil => rfl
  | append_singleton before n ih =>
    have earlier : ∀ m ∈ before, m ∈ before ++ [n] := fun m member => List.mem_append_left _ member
    have latest : n ∈ before ++ [n] := List.mem_append_right _ List.mem_cons_self
    have known : n.node ∈ (run (sessionStep cfg ids tagMap) s (before.map .notify)).requested := by
      rw [notified_requested]
      exact requested n latest
    rw [List.map_append, List.map_singleton, run_snoc, notify_step known, cached_update, lastCarried_snoc,
      ih (fun m member => requested m (earlier m member)) (fun m member => routed m (earlier m member))]
    simp only [routed n latest]

/-- `update_cache` stops at the first tag with the notified node id. -/
theorem cachedSample_latest (cfg : Settings) (ids : NodeIds Node) (tagMap : TagMap) (server : Server)
    (s next : Session Node) (closed : s.connected = false) (subscribes : cfg.opcUaUseSubscription = true)
    (done : connect cfg ids tagMap server s = (next, none)) :
    (∀ notifications : List (Notification Node), (∀ n ∈ notifications, next.isMonitored n.node) →
      ∀ plantCode field node, SensorNode ids tagMap plantCode field node →
        (run (sessionStep cfg ids tagMap) next (notifications.map .notify)).cached plantCode field =
          lastCarried node (readNode server plantCode field).toOption notifications) ↔
      RoutesHome ids tagMap := by
  have fresh := connect_freshlySeeded closed subscribes done
  constructor
  · intro latest plantCode field node sensor
    obtain ⟨n, same, differs⟩ := differing_notification node (next.cached plantCode field)
    have monitored : next.isMonitored n.node := by
      rw [same]
      exact fresh.monitored plantCode field node sensor
    have carried := latest [n] (by simpa using monitored) plantCode field node sensor
    rw [List.map_singleton, run_cons, run_nil, notify_step (fresh.requested _ monitored), cached_update, same] at carried
    by_contra elsewhere
    rw [if_neg elsewhere] at carried
    exact differs (by rw [carried]; simp [lastCarried, same])
  · intro home notifications monitored plantCode field node sensor
    rw [← fresh.seeded plantCode field node sensor]
    refine cached_notified notifications (fun n member => fresh.requested _ (monitored n member)) ?_
    intro n member
    obtain ⟨code, other, notified⟩ := fresh.sensor _ (monitored n member)
    rw [home code other n.node notified]
    constructor
    · intro same
      obtain ⟨rfl, rfl⟩ := Prod.mk.inj (Option.some.inj same)
      exact sensorNode_unique notified sensor
    · intro same
      rw [← home code other n.node notified, same]
      exact home plantCode field node sensor

/-! ### A meter that two plants share -/

def olefinConnected : Session String := (connect connectedCfg textIds olefinTags steadyServer {}).1

theorem cachedSample_latest_olefin :
    (∀ notifications : List (Notification String), (∀ n ∈ notifications, olefinConnected.isMonitored n.node) →
      ∀ plantCode field node, SensorNode textIds olefinTags plantCode field node →
        (run (sessionStep connectedCfg textIds olefinTags) olefinConnected (notifications.map .notify)).cached
            plantCode field =
          lastCarried node (readNode steadyServer plantCode field).toOption notifications) ↔
      RoutesHome textIds olefinTags :=
  cachedSample_latest connectedCfg textIds olefinTags steadyServer {} olefinConnected rfl rfl
    (Prod.ext rfl (by decide +kernel))

def rawShared : Dict String RawPlant :=
  rawOlefin.set "pta"
    { tags := Dict.empty.set "steam_flow_tonh" { nodeId := some "ns=2;s=Olefin.steam_flow_tonh" } }

def ptaPlant : PlantTagMap where
  code := "pta"
  name := "pta"
  tags := Dict.empty.set "steam_flow_tonh" (olefinTag "steam_flow_tonh")

def sharedTags : TagMap := olefinTags.set "pta" ptaPlant

def sharedConnected : Session String := (connect connectedCfg textIds sharedTags steadyServer {}).1

def steamTwenty : Notification String :=
  ⟨"ns=2;s=Olefin.steam_flow_tonh", .number (.finite 20), none⟩

/-- The steam flow of the second plant keeps its seed. -/
theorem sharedMeter_keepsSeed :
    ¬ ∀ (cfg : Settings) (ids : NodeIds String), (∀ node, ids.parse (ids.print node) = some node) →
      ∀ (raw : Dict String RawPlant) (tagMap : TagMap), loadTagMap raw = some tagMap →
      ∀ (server : Server) (s next : Session String), s.connected = false → cfg.opcUaUseSubscription = true →
      connect cfg ids tagMap server s = (next, none) →
      ∀ notifications : List (Notification String), (∀ n ∈ notifications, next.isMonitored n.node) →
      ∀ plantCode field node, SensorNode ids tagMap plantCode field node →
        (run (sessionStep cfg ids tagMap) next (notifications.map .notify)).cached plantCode field =
          lastCarried node (readNode server plantCode field).toOption notifications := by
  intro claim
  have monitored : sharedConnected.isMonitored steamTwenty.node :=
    ⟨_, rfl, by decide +kernel⟩
  have latest := claim connectedCfg textIds (fun _ => rfl) rawShared sharedTags (by decide +kernel) steadyServer {}
    sharedConnected rfl rfl (Prod.ext rfl (by decide +kernel)) [steamTwenty] (by simpa using monitored) "pta"
    "steam_flow_tonh" "ns=2;s=Olefin.steam_flow_tonh"
    ⟨ptaPlant, olefinTag "steam_flow_tonh", by decide +kernel, by decide, by decide +kernel, by decide +kernel⟩
  exact absurd latest (by decide +kernel)

end Iems.Ingestion
