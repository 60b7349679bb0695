import Iems.Core.Config
import Iems.Lib.Newest
import Iems.Lib.Table
import Mathlib.Data.String.Basic

/-! The registry of sites: the default site is seeded, takes the plants without a site, and all are listed. -/
namespace Iems.Services
open Lib Iems.Core

structure Site where
  code : String
  name : String
  region : Option String
  deriving DecidableEq

structure Plant where
  code : String
  name : String
  unitType : String
  siteId : Option Nat
  deriving DecidableEq

/-- The two tables with their constraints: unique codes, and a site that exists behind every `site_id`. -/
structure SiteDb where
  sites : Table Site
  plants : Table Plant
  siteCodes : (sites.values.map Site.code).Nodup
  plantCodes : (plants.values.map Plant.code).Nodup
  linked : ∀ id plant, plants.find? id = some plant → ∀ siteId ∈ plant.siteId, (sites.find? siteId).isSome

/-- `select(Site).where(Site.code == cfg.site_code)`. -/
def storedDefault (cfg : Settings) (sites : Table Site) : Option (Nat × Site) :=
  sites.rows.find? fun row => row.2.code = cfg.siteCode

/-- The id of the default site, and the sites with it. -/
def defaultSite (cfg : Settings) (sites : Table Site) : Nat × Table Site :=
  match storedDefault cfg sites with
  | some row => (row.1, sites)
  | none => (sites.nextId, sites.insert ⟨cfg.siteCode, cfg.siteName, some "gulf"⟩)

def assignSite (siteId : Nat) (plant : Plant) : Plant :=
  match plant.siteId with
  | none => { plant with siteId := some siteId }
  | some _ => plant

theorem defaultSite_found (cfg : Settings) (sites : Table Site) :
    ∃ site, (defaultSite cfg sites).2.find? (defaultSite cfg sites).1 = some site ∧ site.code = cfg.siteCode := by
  unfold defaultSite
  cases found : storedDefault cfg sites with
  | none => exact ⟨_, by rw [Table.find?_insert, if_pos rfl], rfl⟩
  | some row =>
    exact ⟨row.2, Table.mem_rows.mp (List.mem_of_find?_eq_some found), by simpa using List.find?_some found⟩

theorem defaultSite_keeps {cfg : Settings} {sites : Table Site} {id : Nat} {site : Site} (found : sites.find? id = some site) :
    (defaultSite cfg sites).2.find? id = some site := by
  unfold defaultSite
  cases storedDefault cfg sites with
  | none => rw [Table.find?_insert, if_neg (Nat.ne_of_lt (Table.find?_lt found)), found]
  | some row => exact found

theorem defaultSite_codes {cfg : Settings} {sites : Table Site} (codes : (sites.values.map Site.code).Nodup) :
    ((defaultSite cfg sites).2.values.map Site.code).Nodup := by
  unfold defaultSite
  cases absent : storedDefault cfg sites with
  | some row => exact codes
  | none =>
    dsimp only
    rw [Table.values_insert, List.map_append, List.nodup_append]
    refine ⟨codes, List.nodup_singleton _, ?_⟩
    rintro code listed _ new rfl
    rw [List.map_singleton, List.mem_singleton] at new
    obtain ⟨site, stored, same⟩ := List.mem_map.mp listed
    obtain ⟨row, member, rfl⟩ := List.mem_map.mp stored
    have other := List.find?_eq_none.mp absent row member
    exact other (by simpa using same.trans new)

theorem assignSite_eq (siteId : Nat) (plant : Plant) :
    assignSite siteId plant = { plant with siteId := some (plant.siteId.getD siteId) } := by
  obtain ⟨code, name, unitType, own⟩ := plant
  cases own <;> rfl

@[simp] theorem assignSite_code (siteId : Nat) (plant : Plant) : (assignSite siteId plant).code = plant.code := by
  rw [assignSite_eq]

@[simp] theorem assignSite_siteId (siteId : Nat) (plant : Plant) :
    (assignSite siteId plant).siteId = some (plant.siteId.getD siteId) := by
  rw [assignSite_eq]

/-- The default site's id and the tables after the seeding. -/
def seedDefaultSite (cfg : Settings) (db : SiteDb) : Nat × SiteDb :=
  ((defaultSite cfg db.sites).1,
    { sites := (defaultSite cfg db.sites).2
      plants := db.plants.edit (assignSite (defaultSite cfg db.sites).1)
      siteCodes := defaultSite_codes db.siteCodes
      plantCodes := by
        rw [Table.values_edit, List.map_map]
        simpa only [Function.comp_def, assignSite_code] using db.plantCodes
      linked := by
        intro id plant found siteId member
        rw [Table.find?_edit] at found
        obtain ⟨before, stored, rfl⟩ := Option.map_eq_some_iff.mp found
        rw [assignSite_siteId, Option.mem_some_iff] at member
        subst member
        cases linked : before.siteId with
        | none =>
          obtain ⟨site, present, _⟩ := defaultSite_found cfg db.sites
          rw [Option.getD_none, present]
          rfl
        | some own =>
          obtain ⟨site, present⟩ := Option.isSome_iff_exists.mp (db.linked id before stored own linked)
          rw [Option.getD_some, defaultSite_keeps present]
          rfl })

structure PlantEntry where
  code : String
  name : String
  unitType : String
  deriving DecidableEq

structure SiteInfo where
  code : String
  name : String
  region : Option String
  plants : List PlantEntry
  deriving DecidableEq

def plantEntry (plant : Plant) : PlantEntry := ⟨plant.code, plant.name, plant.unitType⟩

/-- The plants of the site; the default site without a plant of its own shows all of them. -/
def sitePlants (cfg : Settings) (plants : Table Plant) (site : Nat × Site) : List Plant :=
  let own := orderBy Plant.code (plants.values.filter fun plant => plant.siteId = some site.1)
  if own = [] ∧ site.2.code = cfg.siteCode then orderBy Plant.code plants.values else own

def siteInfo (cfg : Settings) (plants : Table Plant) (site : Nat × Site) : SiteInfo where
  code := site.2.code
  name := site.2.name
  region := site.2.region
  plants := (sitePlants cfg plants site).map plantEntry

def listSites (cfg : Settings) (db : SiteDb) : List SiteInfo × SiteDb :=
  let seeded := (seedDefaultSite cfg db).2
  ((orderBy (fun row : Nat × Site => row.2.code) seeded.sites.rows).map (siteInfo cfg seeded.plants), seeded)

/-! ### Where a plant is shown -/

/-- The codes of the sites that list the plant. -/
def shownUnder (infos : List SiteInfo) (plantCode : String) : List String :=
  (infos.filter fun info => info.plants.any fun entry => entry.code = plantCode).map SiteInfo.code

/-- Each plant is shown once, under the site that its `site_id` refers to, or under the default site. -/
def ShownOnce (cfg : Settings) (db : SiteDb) : Prop :=
  ∀ id plant, db.plants.find? id = some plant → ∃ siteId site,
    siteId = plant.siteId.getD (defaultSite cfg db.sites).1 ∧
    (listSites cfg db).2.plants.find? id = some { plant with siteId := some siteId } ∧
    (listSites cfg db).2.sites.find? siteId = some site ∧
    shownUnder (listSites cfg db).1 plant.code = [site.code]

/-- Some plant has no site or belongs to the default site already. -/
def DefaultHasPlant (cfg : Settings) (db : SiteDb) : Prop :=
  ∃ id plant, db.plants.find? id = some plant ∧ (plant.siteId = none ∨
    ∃ siteId site, plant.siteId = some siteId ∧ db.sites.find? siteId = some site ∧ site.code = cfg.siteCode)

theorem mem_sitePlants {cfg : Settings} {plants : Table Plant} {site : Nat × Site} {plant : Plant} :
    plant ∈ sitePlants cfg plants site ↔ plant ∈ plants.values ∧
      (plant.siteId = some site.1 ∨
        site.2.code = cfg.siteCode ∧ ∀ other ∈ plants.values, other.siteId ≠ some site.1) := by
  unfold sitePlants
  dsimp only
  have empty : orderBy Plant.code (plants.values.filter fun plant => plant.siteId = some site.1) = [] ↔
      ∀ other ∈ plants.values, other.siteId ≠ some site.1 := by
    rw [← List.length_eq_zero_iff, length_orderBy, List.length_eq_zero_iff, List.filter_eq_nil_iff]
    simp
  split
  · rename_i fallback
    rw [mem_orderBy]
    exact ⟨fun member => ⟨member, .inr ⟨fallback.2, empty.mp fallback.1⟩⟩, And.left⟩
  · rename_i own
    rw [mem_orderBy, List.mem_filter, decide_eq_true_iff]
    refine and_congr_right fun _ => ⟨.inl, ?_⟩
    rintro (here | ⟨default, none_⟩)
    · exact here
    · exact absurd ⟨empty.mpr none_, default⟩ own

theorem shows_iff {cfg : Settings} {plants : Table Plant} (codes : (plants.values.map Plant.code).Nodup)
    {site : Nat × Site} {plant : Plant} (listed : plant ∈ plants.values) :
    ((siteInfo cfg plants site).plants.any fun entry => entry.code = plant.code) = true ↔
      plant.siteId = some site.1 ∨ site.2.code = cfg.siteCode ∧ ∀ other ∈ plants.values, other.siteId ≠ some site.1 := by
  have entry : ((siteInfo cfg plants site).plants.any fun entry => entry.code = plant.code) = true ↔
      plant ∈ sitePlants cfg plants site := by
    unfold siteInfo
    rw [List.any_map, List.any_eq_true]
    constructor
    · rintro ⟨other, member, same⟩
      have equal : other.code = plant.code := of_decide_eq_true same
      rwa [← List.inj_on_of_nodup_map codes (mem_sitePlants.mp member).1 listed equal]
    · intro member
      exact ⟨plant, member, decide_eq_true rfl⟩
  rw [entry, mem_sitePlants, and_iff_right listed]

theorem site_of_code {sites : Table Site} (codes : (sites.values.map Site.code).Nodup) {i j : Nat} {a b : Site}
    (first : sites.find? i = some a) (second : sites.find? j = some b) (same : a.code = b.code) : i = j := by
  unfold Table.values at codes
  rw [List.map_map] at codes
  have rows := List.inj_on_of_nodup_map codes (Table.mem_rows.mpr first) (Table.mem_rows.mpr second) same
  exact (Prod.mk.inj rows).1

theorem mem_seeded {cfg : Settings} {db : SiteDb} {other : Plant} :
    other ∈ (seedDefaultSite cfg db).2.plants.values ↔
      ∃ id plant, db.plants.find? id = some plant ∧ other = assignSite (defaultSite cfg db.sites).1 plant := by
  unfold seedDefaultSite Table.values Table.edit
  dsimp only
  rw [List.map_map, List.mem_map]
  constructor
  · rintro ⟨⟨id, plant⟩, member, rfl⟩
    exact ⟨id, plant, Table.mem_rows.mp member, rfl⟩
  · rintro ⟨id, plant, found, rfl⟩
    exact ⟨(id, plant), Table.mem_rows.mpr found, rfl⟩

/-- The default site has a plant of its own after the seeding. -/
theorem defaultHasPlant_iff {cfg : Settings} {db : SiteDb} :
    DefaultHasPlant cfg db ↔ ∃ id plant, db.plants.find? id = some plant ∧
      plant.siteId.getD (defaultSite cfg db.sites).1 = (defaultSite cfg db.sites).1 := by
  obtain ⟨default, present, code⟩ := defaultSite_found cfg db.sites
  refine exists_congr fun id => exists_congr fun plant => and_congr_right fun found => ?_
  cases linked : plant.siteId with
  | none => simp
  | some own =>
    obtain ⟨site, stored⟩ := Option.isSome_iff_exists.mp (db.linked id plant found own linked)
    have kept := @defaultSite_keeps cfg _ _ _ stored
    rw [Option.getD_some]
    constructor
    · rintro (none_ | ⟨siteId, other, same, there, default_⟩)
      · exact nomatch none_
      · cases same
        cases there.symm.trans stored
        exact site_of_code (defaultSite_codes db.siteCodes) kept present (default_.trans code.symm)
    · intro same
      rw [same] at kept
      cases kept.symm.trans present
      exact .inr ⟨own, _, rfl, stored, code⟩

theorem mem_shownUnder {cfg : Settings} {db : SiteDb} {plantCode code : String} :
    code ∈ shownUnder (listSites cfg db).1 plantCode ↔ ∃ id site, (listSites cfg db).2.sites.find? id = some site ∧
      ((siteInfo cfg (listSites cfg db).2.plants (id, site)).plants.any fun entry => entry.code = plantCode) = true ∧
      site.code = code := by
  unfold shownUnder listSites
  dsimp only
  rw [List.filter_map, List.map_map, List.mem_map]
  constructor
  · rintro ⟨⟨id, site⟩, member, same⟩
    obtain ⟨listed, shows⟩ := List.mem_filter.mp member
    exact ⟨id, site, Table.mem_rows.mp (mem_orderBy.mp listed), shows, same⟩
  · rintro ⟨id, site, found, shows, same⟩
    exact ⟨(id, site), List.mem_filter.mpr ⟨mem_orderBy.mpr (Table.mem_rows.mpr found), shows⟩, same⟩

theorem seeded_listed {cfg : Settings} {db : SiteDb} {id : Nat} {plant : Plant} (found : db.plants.find? id = some plant) :
    assignSite (defaultSite cfg db.sites).1 plant ∈ (seedDefaultSite cfg db).2.plants.values :=
  mem_seeded.mpr ⟨id, plant, found, rfl⟩

/-- A default site without a plant of its own shows every plant. -/
theorem default_shows {cfg : Settings} {db : SiteDb} {id : Nat} {plant : Plant}
    (found : db.plants.find? id = some plant) (unowned : ¬ DefaultHasPlant cfg db) :
    cfg.siteCode ∈ shownUnder (listSites cfg db).1 plant.code := by
  obtain ⟨default, present, code⟩ := defaultSite_found cfg db.sites
  rw [mem_shownUnder]
  refine ⟨_, default, present, ?_, code⟩
  rw [← assignSite_code (defaultSite cfg db.sites).1 plant]
  refine (shows_iff (seedDefaultSite cfg db).2.plantCodes (seeded_listed found)).mpr (.inr ⟨code, ?_⟩)
  intro other listed own
  obtain ⟨otherId, before, there, rfl⟩ := mem_seeded.mp listed
  rw [assignSite_siteId, Option.some_inj] at own
  exact unowned (defaultHasPlant_iff.mpr ⟨otherId, before, there, own⟩)

theorem defaultHasPlant_of_shownOnce {cfg : Settings} {db : SiteDb} (once : ShownOnce cfg db) {id : Nat} {plant : Plant}
    (found : db.plants.find? id = some plant) : DefaultHasPlant cfg db := by
  obtain ⟨siteId, site, home, _, stored, shown⟩ := once id plant found
  by_contra unowned
  -- the default site shows this plant too, so it is the plant's home
  have also_ := default_shows found unowned
  rw [shown, List.mem_singleton] at also_
  obtain ⟨default, present, code⟩ := defaultSite_found cfg db.sites
  have same := site_of_code (seedDefaultSite cfg db).2.siteCodes present stored (code.trans also_)
  exact unowned (defaultHasPlant_iff.mpr ⟨id, plant, found, home.symm.trans same.symm⟩)

/-- Beside a default site with a plant of its own, a site shows the plants that refer to it and no others. -/
theorem shows_home {cfg : Settings} {db : SiteDb} (own : DefaultHasPlant cfg db) {id : Nat} {plant : Plant}
    (found : db.plants.find? id = some plant) {row : Nat × Site}
    (stored : (seedDefaultSite cfg db).2.sites.find? row.1 = some row.2) :
    ((siteInfo cfg (seedDefaultSite cfg db).2.plants row).plants.any fun entry => entry.code = plant.code) =
      decide (row.1 = plant.siteId.getD (defaultSite cfg db.sites).1) := by
  obtain ⟨default, present, code⟩ := defaultSite_found cfg db.sites
  obtain ⟨ownId, resident, there, home⟩ := defaultHasPlant_iff.mp own
  rw [Bool.eq_iff_iff, decide_eq_true_iff, ← assignSite_code (defaultSite cfg db.sites).1 plant,
    shows_iff (seedDefaultSite cfg db).2.plantCodes (seeded_listed found), assignSite_siteId, Option.some_inj]
  constructor
  · rintro (here | ⟨default_, none_⟩)
    · exact here.symm
    · have same := site_of_code (seedDefaultSite cfg db).2.siteCodes stored present (default_.trans code.symm)
      refine absurd ?_ (none_ _ (seeded_listed there))
      rw [assignSite_siteId, home, same]
  · intro here
    exact .inl here.symm

theorem shownUnder_home {cfg : Settings} {db : SiteDb} (own : DefaultHasPlant cfg db) {id : Nat} {plant : Plant}
    (found : db.plants.find? id = some plant) {site : Site}
    (stored : (seedDefaultSite cfg db).2.sites.find? (plant.siteId.getD (defaultSite cfg db.sites).1) = some site) :
    shownUnder (listSites cfg db).1 plant.code = [site.code] := by
  unfold shownUnder listSites
  dsimp only
  have only := List.filter_congr fun row (member : row ∈ orderBy (fun row : Nat × Site => row.2.code) _) =>
    shows_home own found (Table.mem_rows.mp (mem_orderBy.mp member))
  rw [Table.filter_id stored (orderBy_perm _)] at only
  rw [List.filter_map, List.map_map]
  exact congrArg (List.map (SiteInfo.code ∘ siteInfo cfg (seedDefaultSite cfg db).2.plants)) only

/-- Every plant is shown once exactly where the default site has a plant of its own, or no plant exists. -/
theorem shownOnce_iff (cfg : Settings) (db : SiteDb) :
    ShownOnce cfg db ↔ db.plants.rows = [] ∨ DefaultHasPlant cfg db := by
  constructor
  · intro once
    rw [Classical.or_iff_not_imp_left]
    intro some_
    obtain ⟨⟨id, plant⟩, member⟩ := List.exists_mem_of_ne_nil _ some_
    exact defaultHasPlant_of_shownOnce once (Table.mem_rows.mp member)
  · rintro (empty | own) id plant found
    · have member := Table.mem_rows.mpr found
      rw [empty] at member
      exact nomatch member
    · have placed : (seedDefaultSite cfg db).2.plants.find? id = some (assignSite (defaultSite cfg db.sites).1 plant) := by
        show (db.plants.edit _).find? id = _
        rw [Table.find?_edit, found, Option.map_some]
      have linked := (seedDefaultSite cfg db).2.linked id _ placed _ (assignSite_siteId _ plant)
      obtain ⟨site, stored⟩ := Option.isSome_iff_exists.mp linked
      refine ⟨_, site, rfl, ?_, stored, shownUnder_home own found stored⟩
      show (seedDefaultSite cfg db).2.plants.find? id = _
      rw [placed, assignSite_eq]

/-- A second site owns the only plant, and the default site none. -/
def otherSite : SiteDb where
  sites := (Table.empty.insert ⟨"khalij", "Khalij Complex", some "gulf"⟩).insert ⟨"aromatics", "Aromatics", none⟩
  plants := Table.empty.insert ⟨"pta", "PTA", "reactor", some 2⟩
  siteCodes := by decide
  plantCodes := by decide
  linked := by
    intro id plant found
    rw [Table.find?_insert] at found
    split at found
    · cases found
      decide
    · exact nomatch found

theorem otherSite_shown_twice : ¬ ∀ (cfg : Settings) (db : SiteDb), ShownOnce cfg db := by
  intro always
  have stored : otherSite.plants.find? 1 = some ⟨"pta", "PTA", "reactor", some 2⟩ := rfl
  obtain ⟨id, plant, found, own⟩ := defaultHasPlant_of_shownOnce (always {} otherSite) stored
  have only : plant = ⟨"pta", "PTA", "reactor", some 2⟩ := by
    unfold otherSite at found
    rw [Table.find?_insert] at found
    split at found
    · exact (Option.some_inj.mp found).symm
    · exact nomatch found
  subst only
  rcases own with none_ | ⟨siteId, site, same, there, code⟩
  · exact nomatch none_
  · cases same
    cases (show otherSite.sites.find? 2 = some ⟨"aromatics", "Aromatics", none⟩ from rfl).symm.trans there
    exact absurd code (by decide)

end Iems.Services
