import Iems.Ingestion.OpcuaSession

/-! What the set-up of the subscriptions does, where it completes and where it stops early. -/
namespace Iems.Ingestion
open Lib Iems.Core Relation

variable {Node : Type} {cfg : Settings} {ids : NodeIds Node} {tagMap : TagMap} {server : Server}

/-- The node of a sensor field of a plant. -/
def SensorNode (ids : NodeIds Node) (tagMap : TagMap) (plantCode field : String) (node : Node) : Prop :=
  ∃ plant tag, tagMap.get? plantCode = some plant ∧ field ∈ sensorFields ∧ plant.tags.get? field = some tag ∧
    ids.parse tag.nodeId = some node

/-- The single moves of a set-up, in whatever order the tag map gives them. -/
inductive SetupMove (ids : NodeIds Node) (tagMap : TagMap) (server : Server) : Session Node → Session Node → Prop
  | openPlant (s : Session Node) (plantCode : String) :
    SetupMove ids tagMap server s { s with cache := s.cache.setDefault plantCode .empty }
  | request {plantCode field : String} {node : Node} (s : Session Node)
    (sensor : SensorNode ids tagMap plantCode field node) : SetupMove ids tagMap server s (s.request node)
  | subscribe {plantCode field : String} {node : Node} (s : Session Node)
    (sensor : SensorNode ids tagMap plantCode field node) : SetupMove ids tagMap server s ((s.request node).monitor node)
  | seed {plantCode field : String} {node : Node} {sample : TagSample} (s : Session Node)
    (sensor : SensorNode ids tagMap plantCode field node) (read : readNode server plantCode field = .ok sample) :
    SetupMove ids tagMap server s (s.store plantCode field sample)

theorem setupFields_moves {plantCode : String} {plant : PlantTagMap} (found : tagMap.get? plantCode = some plant)
    {fields : List String} (sensors : fields ⊆ sensorFields) (s : Session Node) :
    ReflTransGen (SetupMove ids tagMap server) s (setupFields ids server plantCode plant fields s).1 := by
  induction fields generalizing s with
  | nil => exact .refl
  | cons field rest ih =>
    have later : rest ⊆ sensorFields := fun other member => sensors (List.mem_cons_of_mem _ member)
    unfold setupFields
    split
    · exact ih later s
    · rename_i tag present
      split
      · exact .refl
      · rename_i node parsed
        have sensor : SensorNode ids tagMap plantCode field node :=
          ⟨plant, tag, found, sensors List.mem_cons_self, present, parsed⟩
        split
        · have subscribed : ReflTransGen (SetupMove ids tagMap server) s _ := .single (.subscribe s sensor)
          dsimp only
          split
          · exact subscribed
          · rename_i sample read
            exact (subscribed.tail (.seed _ sensor read)).trans (ih later _)
        · exact .single (.request s sensor)

theorem setupPlants_moves {plants : List (String × PlantTagMap)} (listed : plants ⊆ tagMap.items) (s : Session Node) :
    ReflTransGen (SetupMove ids tagMap server) s (setupPlants ids server plants s).1 := by
  induction plants generalizing s with
  | nil => exact .refl
  | cons entry rest ih =>
    obtain ⟨plantCode, plant⟩ := entry
    have found : tagMap.get? plantCode = some plant := (Dict.get?_iff_mem _).mpr (listed List.mem_cons_self)
    have plantOpened : SetupMove ids tagMap server s _ := .openPlant s plantCode
    have first := (ReflTransGen.single plantOpened).trans (setupFields_moves found (List.Subset.refl sensorFields) _)
    unfold setupPlants
    dsimp only
    split
    · rename_i next done
      rw [done] at first
      exact first.trans (ih (fun other member => listed (List.mem_cons_of_mem _ member)) _)
    · rename_i next error stopped
      rw [stopped] at first
      exact first

/-! ### What the moves keep -/

theorem cached_store (s : Session Node) (plantCode field : String) (sample : TagSample) (code other : String) :
    (s.store plantCode field sample).cached code other =
      if code = plantCode ∧ other = field then some sample else s.cached code other := by
  unfold Session.cached Session.store storeSample
  dsimp only
  rw [Dict.get?_set]
  by_cases samePlant : code = plantCode
  · subst samePlant
    rw [if_pos rfl, Option.bind_some, Dict.get?_set]
    simp only [true_and]
    split
    · rfl
    · cases s.cache.get? code <;> rfl
  · simp only [samePlant, false_and, if_false]

theorem cached_openPlant (s : Session Node) (plantCode code field : String) :
    ({ s with cache := s.cache.setDefault plantCode .empty } : Session Node).cached code field =
      s.cached code field := by
  unfold Session.cached
  dsimp only
  rw [Dict.get?_setDefault]
  split
  · rename_i same
    rw [same]
    cases s.cache.get? plantCode <;> rfl
  · rfl

theorem isMonitored_monitor {s : Session Node} {node other : Node} (held : s.isMonitored other) :
    (s.monitor node).isMonitored other := by
  obtain ⟨nodes, opened, member⟩ := held
  refine ⟨node :: nodes, ?_, List.mem_cons_of_mem _ member⟩
  show s.monitored.map (node :: ·) = _
  rw [opened]
  rfl

theorem moves_isMonitored {s t : Session Node} {node : Node}
    (moves : ReflTransGen (SetupMove ids tagMap server) s t) (held : s.isMonitored node) : t.isMonitored node := by
  refine @moves_invariant _ _ (fun t => t.isMonitored node) _ _ ?_ moves held
  intro before after move monitored
  cases move with
  | subscribe => exact isMonitored_monitor monitored
  | openPlant | request | seed => exact monitored

theorem moves_open {s t : Session Node} (moves : ReflTransGen (SetupMove ids tagMap server) s t)
    (opened : s.monitored.isSome = true) : t.monitored.isSome = true := by
  refine @moves_invariant _ _ (fun t => t.monitored.isSome = true) _ _ ?_ moves opened
  intro before after move held
  cases move with
  | subscribe =>
    show (before.monitored.map _).isSome = true
    rw [Option.isSome_map]
    exact held
  | openPlant | request | seed => exact held

/-- Every seed of one set-up is the same read. -/
theorem moves_seeded {s t : Session Node} {plantCode field : String} {sample : TagSample}
    (moves : ReflTransGen (SetupMove ids tagMap server) s t)
    (read : readNode server plantCode field = .ok sample) (held : s.cached plantCode field = some sample) :
    t.cached plantCode field = some sample := by
  refine @moves_invariant _ _ (fun t => t.cached plantCode field = some sample) _ _ ?_ moves held
  intro before after move kept
  cases move with
  | openPlant code => rw [cached_openPlant, kept]
  | request | subscribe => exact kept
  | seed _ _ again =>
    rw [cached_store]
    split
    · rename_i same
      obtain ⟨rfl, rfl⟩ := same
      rw [read] at again
      rw [Except.ok.inj again]
    · exact kept

/-! ### A completed set-up -/

/-- The node of the tag is monitored and its sample seeded. -/
def SeededTag (ids : NodeIds Node) (server : Server) (plantCode : String) (s : Session Node) (field : String) (tag : TagDef) : Prop :=
  ∃ node sample, ids.parse tag.nodeId = some node ∧ s.isMonitored node ∧
    readNode server plantCode field = .ok sample ∧ s.cached plantCode field = some sample

theorem moves_seededTag {s t : Session Node} {plantCode field : String} {tag : TagDef}
    (moves : ReflTransGen (SetupMove ids tagMap server) s t) (seeded : SeededTag ids server plantCode s field tag) :
    SeededTag ids server plantCode t field tag := by
  obtain ⟨node, sample, parsed, monitored, read, held⟩ := seeded
  exact ⟨node, sample, parsed, moves_isMonitored moves monitored, read, moves_seeded moves read held⟩

theorem setupFields_done {plantCode : String} {plant : PlantTagMap} (found : tagMap.get? plantCode = some plant)
    {fields : List String} (sensors : fields ⊆ sensorFields) {s next : Session Node}
    (opened : s.monitored.isSome = true)
    (done : setupFields ids server plantCode plant fields s = (next, none)) :
    ∀ field ∈ fields, ∀ tag, plant.tags.get? field = some tag → SeededTag ids server plantCode next field tag := by
  induction fields generalizing s with
  | nil => intro field member; cases member
  | cons first rest ih =>
    have later : rest ⊆ sensorFields := fun other member => sensors (List.mem_cons_of_mem _ member)
    unfold setupFields at done
    intro field member tag present
    split at done
    · rename_i unmapped
      rcases List.mem_cons.mp member with here | there
      · rw [here, unmapped] at present
        cases present
      · exact ih later opened done field there tag present
    · rename_i firstTag firstPresent
      split at done
      · cases done
      · rename_i node parsed
        split at done
        · dsimp only at done
          split at done
          · cases done
          · rename_i sample read
            have stillOpen : (((s.request node).monitor node).store plantCode first sample).monitored.isSome = true := by
              show (s.monitored.map _).isSome = true
              rw [Option.isSome_map]
              exact opened
            rcases List.mem_cons.mp member with here | there
            · subst here
              rw [present] at firstPresent
              cases firstPresent
              have moves := @setupFields_moves _ ids tagMap server _ _ found _ later
                (((s.request node).monitor node).store plantCode field sample)
              rw [done] at moves
              refine moves_seededTag moves ⟨node, sample, parsed, ?_, read, ?_⟩
              · obtain ⟨nodes, held⟩ := Option.isSome_iff_exists.mp opened
                refine ⟨node :: nodes, ?_, List.mem_cons_self⟩
                show s.monitored.map _ = _
                rw [held]
                rfl
              · rw [cached_store, if_pos ⟨rfl, rfl⟩]
            · exact ih later stillOpen done field there tag present
        · cases done

theorem setupPlants_done {plants : List (String × PlantTagMap)} (listed : plants ⊆ tagMap.items) {s next : Session Node}
    (opened : s.monitored.isSome = true) (done : setupPlants ids server plants s = (next, none)) :
    ∀ entry ∈ plants, ∀ field ∈ sensorFields, ∀ tag, entry.2.tags.get? field = some tag →
      SeededTag ids server entry.1 next field tag := by
  induction plants generalizing s with
  | nil => intro entry member; cases member
  | cons first rest ih =>
    obtain ⟨plantCode, plant⟩ := first
    have found : tagMap.get? plantCode = some plant := (Dict.get?_iff_mem _).mpr (listed List.mem_cons_self)
    have later : rest ⊆ tagMap.items := fun other member => listed (List.mem_cons_of_mem _ member)
    unfold setupPlants at done
    dsimp only at done
    split at done
    · rename_i middle here
      have planted : ({ s with cache := s.cache.setDefault plantCode .empty } : Session Node).monitored.isSome = true :=
        opened
      have stillOpen : middle.monitored.isSome = true := by
        have moves := @setupFields_moves _ ids tagMap server _ _ found _ (List.Subset.refl sensorFields)
          { s with cache := s.cache.setDefault plantCode .empty }
        rw [here] at moves
        exact moves_open moves planted
      intro entry member field sensor tag present
      rcases List.mem_cons.mp member with same | there
      · subst same
        have seeded := setupFields_done found (List.Subset.refl _) planted here field sensor tag present
        have moves := @setupPlants_moves _ ids tagMap server _ later middle
        rw [done] at moves
        exact moves_seededTag moves seeded
      · exact ih later stillOpen done entry there field sensor tag present
    · cases done

/-- Every sensor node of the tag map has an active subscription. -/
def AllMonitored (ids : NodeIds Node) (tagMap : TagMap) (s : Session Node) : Prop :=
  ∀ plantCode field node, SensorNode ids tagMap plantCode field node → s.isMonitored node

theorem connect_cases (s : Session Node) :
    (s.connected = true ∧ connect cfg ids tagMap server s = (s, none)) ∨
    (s.connected = false ∧ ∃ error, connect cfg ids tagMap server s = (s, some error)) ∨
    (s.connected = false ∧ cfg.opcUaUseSubscription = false ∧
      connect cfg ids tagMap server s = ({ s with client := true, connected := true }, none)) ∨
    (s.connected = false ∧ cfg.opcUaUseSubscription = true ∧
      connect cfg ids tagMap server s = setupSubscriptions ids tagMap server { s with client := true, connected := true }) := by
  unfold connect
  split
  · rename_i connected
    exact Or.inl ⟨connected, rfl⟩
  · rename_i closed
    have closed : s.connected = false := Bool.eq_false_iff.mpr closed
    refine Or.inr ?_
    split
    · exact Or.inl ⟨closed, _, rfl⟩
    · split
      · exact Or.inl ⟨closed, _, rfl⟩
      · split
        · dsimp only
          split
          · rename_i subscribes
            exact Or.inr (Or.inr ⟨closed, subscribes, rfl⟩)
          · rename_i polls
            exact Or.inr (Or.inl ⟨closed, Bool.eq_false_iff.mpr polls, rfl⟩)
        · exact Or.inl ⟨closed, _, rfl⟩

theorem setupSubscriptions_cases (s : Session Node) :
    setupSubscriptions ids tagMap server s = (s, some .createSubscription) ∨
      setupSubscriptions ids tagMap server s = setupPlants ids server tagMap.items { s with monitored := some [] } := by
  unfold setupSubscriptions
  split
  · exact Or.inr rfl
  · exact Or.inl rfl

/-- What every move of the set-up keeps, and opening the client and its subscription do, is kept by a connect. -/
theorem connect_invariant {inv : Session Node → Prop} (keep : ∀ s t, SetupMove ids tagMap server s t → inv s → inv t)
    {s : Session Node} (held : inv s) (opened : inv { s with client := true, connected := true })
    (planted : inv { s with client := true, connected := true, monitored := some [] }) :
    inv (connect cfg ids tagMap server s).1 := by
  rcases @connect_cases _ cfg ids tagMap server s with ⟨_, same⟩ | ⟨_, error, same⟩ | ⟨_, _, same⟩ | ⟨_, _, same⟩
  · rw [same]
    exact held
  · rw [same]
    exact held
  · rw [same]
    exact opened
  · rw [same]
    rcases @setupSubscriptions_cases _ ids tagMap server { s with client := true, connected := true } with failed | ran
    · rw [failed]
      exact opened
    · rw [ran]
      have moves := @setupPlants_moves _ ids tagMap server _ (List.Subset.refl tagMap.items)
        { s with client := true, connected := true, monitored := some [] }
      exact moves_invariant keep moves planted

theorem setupSubscriptions_done {s next : Session Node}
    (done : setupSubscriptions ids tagMap server s = (next, none)) :
    ∀ plantCode plant, tagMap.get? plantCode = some plant → ∀ field ∈ sensorFields, ∀ tag,
      plant.tags.get? field = some tag → SeededTag ids server plantCode next field tag := by
  rcases @setupSubscriptions_cases _ ids tagMap server s with failed | ran
  · rw [failed] at done
    cases done
  · rw [ran] at done
    intro plantCode plant found field sensor tag present
    exact setupPlants_done (List.Subset.refl _) rfl done (plantCode, plant) ((Dict.get?_iff_mem _).mp found)
      field sensor tag present

theorem setupSubscriptions_allMonitored {s next : Session Node}
    (done : setupSubscriptions ids tagMap server s = (next, none)) : AllMonitored ids tagMap next := by
  rintro plantCode field node ⟨plant, tag, found, sensor, present, parsed⟩
  obtain ⟨seeded, _, again, monitored, _⟩ := setupSubscriptions_done done plantCode plant found field sensor tag present
  rw [parsed] at again
  exact Option.some.inj again ▸ monitored

/-! ### What a set-up subscribes to -/

/-- The tags of a plant in the order in which a set-up comes to them. -/
def setupTags (plantCode : String) (plant : PlantTagMap) (fields : List String) : List (String × String × TagDef) :=
  fields.filterMap fun field => (plant.tags.get? field).map fun tag => (plantCode, field, tag)

/-- The nodes subscribed along a list of tags: up to an id that does not parse, a refused subscription or a cancelled
read. -/
def subscribedAlong (ids : NodeIds Node) (server : Server) : List (String × String × TagDef) → List Node
  | [] => []
  | (plantCode, field, tag) :: rest =>
    match ids.parse tag.nodeId with
    | none => []
    | some node =>
      if server.subscribes plantCode field then
        match readNode server plantCode field with
        | .error _ => [node]
        | .ok _ => node :: subscribedAlong ids server rest
      else []

def subscribedBy (ids : NodeIds Node) (tagMap : TagMap) (server : Server) : List Node :=
  if server.createsSubscription then
    subscribedAlong ids server (tagMap.items.flatMap fun entry => setupTags entry.1 entry.2 sensorFields)
  else []

theorem setupFields_monitored {plantCode : String} {plant : PlantTagMap} (fields : List String)
    (later : List (String × String × TagDef)) {s : Session Node} {nodes : List Node} (opened : s.monitored = some nodes) :
    ∃ more, (setupFields ids server plantCode plant fields s).1.monitored = some (more ++ nodes) ∧
      ∀ node, node ∈ subscribedAlong ids server (setupTags plantCode plant fields ++ later) ↔
        node ∈ more ∨ (setupFields ids server plantCode plant fields s).2 = none ∧ node ∈ subscribedAlong ids server later := by
  induction fields generalizing s nodes with
  | nil => exact ⟨[], opened, fun node => by simp [setupTags, setupFields]⟩
  | cons field rest ih =>
    unfold setupFields setupTags
    cases present : plant.tags.get? field with
    | none =>
      rw [List.filterMap_cons_none (by rw [present]; rfl)]
      exact ih opened
    | some tag =>
      rw [List.filterMap_cons_some (by rw [present]; rfl), List.cons_append]
      rw [subscribedAlong]
      dsimp only
      cases parsed : ids.parse tag.nodeId with
      | none => exact ⟨[], opened, fun node => by simp⟩
      | some own =>
        dsimp only
        by_cases granted : server.subscribes plantCode field = true
        · rw [if_pos granted, if_pos granted]
          have subscribed : ((s.request own).monitor own).monitored = some (own :: nodes) := by
            show s.monitored.map (own :: ·) = _
            rw [opened]
            rfl
          cases readNode server plantCode field with
          | error raised => exact ⟨[own], subscribed, fun node => by simp⟩
          | ok sample =>
            obtain ⟨more, held, along⟩ := @ih (((s.request own).monitor own).store plantCode field sample) _ subscribed
            refine ⟨more ++ [own], by simpa using held, fun node => ?_⟩
            rw [setupTags] at along
            rw [List.mem_cons, along node, List.mem_append, List.mem_singleton]
            dsimp only
            tauto
        · rw [if_neg granted, if_neg granted]
          exact ⟨[], opened, fun node => by simp⟩

theorem setupPlants_monitored (plants : List (String × PlantTagMap)) {s : Session Node} {nodes : List Node}
    (opened : s.monitored = some nodes) :
    ∃ more, (setupPlants ids server plants s).1.monitored = some (more ++ nodes) ∧
      ∀ node, node ∈ subscribedAlong ids server (plants.flatMap fun entry => setupTags entry.1 entry.2 sensorFields) ↔
        node ∈ more := by
  induction plants generalizing s nodes with
  | nil => exact ⟨[], opened, fun node => by simp [subscribedAlong]⟩
  | cons entry rest ih =>
    obtain ⟨plantCode, plant⟩ := entry
    obtain ⟨first, held, along⟩ := @setupFields_monitored _ ids server plantCode plant sensorFields
      (rest.flatMap fun entry => setupTags entry.1 entry.2 sensorFields)
      { s with cache := s.cache.setDefault plantCode .empty } nodes opened
    rw [List.flatMap_cons]
    unfold setupPlants
    dsimp only
    split
    · rename_i next done
      rw [done] at held along
      obtain ⟨more, heldMore, alongMore⟩ := ih held
      refine ⟨more ++ first, by simpa using heldMore, fun node => ?_⟩
      rw [along node, alongMore node, List.mem_append]
      simp [or_comm]
    · rename_i next raised stopped
      rw [stopped] at held along
      exact ⟨first, held, fun node => by simpa using along node⟩

/-- The connection comes about, whatever becomes of the set-up behind it. -/
def Reaches (cfg : Settings) (server : Server) : Prop :=
  cfg.opcUaEndpoint ≠ "" ∧ server.missingLibrary = false ∧ server.connects = true

/-- A connect on a closed session leaves it closed, or connected with what its set-up subscribed to. -/
theorem connect_subscribes (subscribes : cfg.opcUaUseSubscription = true) {s : Session Node} (closed : s.connected = false)
    (cleared : s.monitored = none) :
    ¬Reaches cfg server ∧ (connect cfg ids tagMap server s).1 = s ∨
      Reaches cfg server ∧ (connect cfg ids tagMap server s).1.connected = true ∧
        ∀ node, (connect cfg ids tagMap server s).1.isMonitored node ↔ node ∈ subscribedBy ids tagMap server := by
  unfold connect Reaches
  rw [if_neg (Bool.eq_false_iff.mp closed)]
  by_cases unset : cfg.opcUaEndpoint = ""
  · rw [if_pos unset]
    exact .inl ⟨fun reached => reached.1 unset, rfl⟩
  by_cases missing : server.missingLibrary = true
  · rw [if_neg unset, if_pos missing]
    exact .inl ⟨fun reached => Bool.eq_false_iff.mp reached.2.1 missing, rfl⟩
  by_cases reached : server.connects = true
  swap
  · rw [if_neg unset, if_neg missing, if_neg reached]
    exact .inl ⟨fun all => reached all.2.2, rfl⟩
  rw [if_neg unset, if_neg missing, if_pos reached]
  refine .inr ⟨⟨unset, Bool.eq_false_iff.mpr missing, reached⟩, ?_⟩
  dsimp only
  rw [if_pos subscribes]
  unfold setupSubscriptions subscribedBy
  by_cases created : server.createsSubscription = true
  · rw [if_pos created, if_pos created]
    have moves := @setupPlants_moves _ ids tagMap server _ (List.Subset.refl tagMap.items)
      { s with client := true, connected := true, monitored := some [] }
    have connected := @moves_invariant _ _ (fun t : Session Node => t.connected = true) _ _
      (fun _ _ move held => by cases move <;> exact held) moves rfl
    obtain ⟨more, held, along⟩ := @setupPlants_monitored _ ids server tagMap.items
      { s with client := true, connected := true, monitored := some [] } [] rfl
    refine ⟨connected, fun node => ?_⟩
    rw [along node]
    simp [Session.isMonitored, held]
  · rw [if_neg created, if_neg created]
    exact ⟨rfl, fun node => by simp [Session.isMonitored, cleared]⟩

/-! ### Reads -/

theorem ensure_eq (s : Session Node) : ensure cfg ids tagMap server s = connect cfg ids tagMap server s := by
  unfold ensure
  split
  · rename_i connected
    unfold connect
    rw [if_pos connected]
  · rfl

theorem readOpen_cases (plant : PlantTagMap) (s : Session Node) :
    ((readOpen cfg ids server plant s).1 = s ∧ ∀ out, (readOpen cfg ids server plant s).2 ≠ .polled out) ∨
      ∃ out, pollFields ids server plant sensorFields .empty = .ok out ∧
        readOpen cfg ids server plant s = ({ s with cache := s.cache.set plant.code out }, .polled out) := by
  unfold readOpen
  split
  · split
    · exact Or.inl ⟨rfl, fun _ wrong => by cases wrong⟩
    · split
      · exact Or.inl ⟨rfl, fun _ wrong => by cases wrong⟩
      · rename_i out polled
        exact Or.inr ⟨out, polled, rfl⟩
  · exact Or.inl ⟨rfl, fun _ wrong => by cases wrong⟩

theorem cached_polled (s : Session Node) (code : String) (out : Dict String TagSample) (plantCode field : String) :
    ({ s with cache := s.cache.set code out } : Session Node).cached plantCode field =
      if plantCode = code then out.get? field else s.cached plantCode field := by
  unfold Session.cached
  dsimp only
  rw [Dict.get?_set]
  split <;> rfl

theorem pollFields_sample {plant : PlantTagMap} {fields : List String} {out polled : Dict String TagSample}
    (read : pollFields ids server plant fields out = .ok polled) {field : String} {sample : TagSample}
    (found : polled.get? field = some sample) :
    out.get? field = some sample ∨ (field ∈ fields ∧ ∃ tag node, plant.tags.get? field = some tag ∧
      ids.parse tag.nodeId = some node ∧ readNode server plant.code field = .ok sample) := by
  induction fields generalizing out with
  | nil =>
    cases read
    exact Or.inl found
  | cons first rest ih =>
    unfold pollFields at read
    split at read
    · rcases ih read with before | ⟨member, more⟩
      · exact Or.inl before
      · exact Or.inr ⟨List.mem_cons_of_mem _ member, more⟩
    · rename_i tag present
      split at read
      · cases read
      · rename_i node parsed
        split at read
        · cases read
        · rename_i value taken
          rcases ih read with before | ⟨member, more⟩
          · rw [Dict.get?_set] at before
            split at before
            · rename_i same
              rw [same, ← Option.some.inj before]
              exact Or.inr ⟨List.mem_cons_self, tag, node, present, parsed, taken⟩
            · exact Or.inl before
          · exact Or.inr ⟨List.mem_cons_of_mem _ member, more⟩

theorem readOpen_cached {plant : PlantTagMap} {s : Session Node} {samples : Dict String TagSample}
    (answered : (readOpen cfg ids server plant s).2 = .cached samples) :
    (readOpen cfg ids server plant s).1 = s ∧ s.client = true ∧ cfg.opcUaUseSubscription = true ∧
      ∀ field sample, samples.get? field = some sample → s.cached plant.code field = some sample := by
  unfold readOpen at answered ⊢
  split at answered
  · rename_i opened
    rw [if_pos opened]
    split at answered
    · rename_i held answer
      cases answered
      unfold cacheAnswer at answer
      split at answer
      · rename_i subscribes
        obtain ⟨stored, _⟩ := Option.filter_eq_some_iff.mp answer
        refine ⟨rfl, opened, subscribes, fun field sample found => ?_⟩
        unfold Session.cached
        rw [stored]
        exact found
      · cases answer
    · split at answered <;> cases answered
  · cases answered

end Iems.Ingestion
