import Iems.Api.IdRouting
import Iems.Carbon.Calendar

/-! The routes that read carbon reports: the listing and the figures of a period. Where the database shows nothing, a
demo answers from its memory and makes the report that is missing there. -/
namespace Iems.Api
open Lib Iems.Carbon Iems.Demo Iems.Services

/-- What surrounds a read: settings, clock and demo memory, whether the database answers, and in which order it lists
the reports of one start. -/
structure ReadEnv where
  generate : GenerateEnv
  reachable : Bool
  ties : Nat ↪ Nat := .refl Nat

/-- A limit that the query parameters let through. -/
structure PageLimit (most : Nat) where
  rows : Nat
  positive : 1 ≤ rows
  bounded : rows ≤ most

structure CarbonScopeOut where
  plantCode : String
  periodType : PeriodType
  scope1Kgco2 : ℚ
  scope2Kgco2 : ℚ
  scope3Kgco2 : Option ℚ
  totalKgco2 : ℚ
  carbonIntensityKgco2Ton : Option ℚ
  productTon : Option ℚ
  factorsVersion : Option String
  reportId : Nat
  periodStart : Datetime
  periodEnd : Datetime
  assuranceStatus : Option String

def noPeriodReport (periodType : PeriodType) (plantCode : String) : HttpError :=
  ⟨404, "No " ++ periodType.text ++ " report for '" ++ plantCode ++ "'. POST /api/v1/carbon/reports/generate first."⟩

/-- `list_reports` with the ids; a query that raises shows nothing. -/
def storedReports (env : ReadEnv) (plantCode : Option String) (periodType : Option PeriodType) (limit : Nat)
    (db : CarbonDb) : List (Nat × CarbonReport × String) :=
  if env.reachable then
    latestReports env.ties db plantCode (fun report => periodType = none ∨ periodType = some report.periodType) limit
  else []

/-- The reports of the memory, or one made on the spot where there are none and a plant is named; what the
generation raises is not caught. -/
def demoReports (env : GenerateEnv) (plantCode : Option String) (periodType : Option PeriodType) (limit : Nat)
    (memory : MemoryReportStore) : Except HttpError (List MemoryCarbonReport) × MemoryReportStore :=
  match memory.list plantCode periodType limit, namedCode plantCode with
  | [], some code =>
    match generateMemoryReport env.ctx env.now env.demo code (periodType.getD .daily) false memory with
    | (none, stored) => (.error internalError, stored)
    | (some made, stored) => (.ok [made], stored)
  | rows, _ => (.ok rows, memory)

def getReports (env : ReadEnv) (plantCode : Option String) (periodType : Option PeriodType) (limit : PageLimit 500)
    (server : CarbonServer) : Except HttpError (List CarbonReportOut) × CarbonServer :=
  match storedReports env plantCode periodType limit.rows server.db with
  | [] =>
    if env.generate.ctx.cfg.allowDemoMemory then
      let (rows, memory) := demoReports env.generate plantCode periodType limit.rows server.memory
      (rows.map (List.map memoryReportOut), { server with memory := memory })
    else (.ok [], server)
  | rows => (.ok (rows.map fun row => reportOut row.1 row.2.1 row.2.2), server)

def scopeOut (periodType : PeriodType) (id : Nat) (report : CarbonReport) (plantCode : String) : CarbonScopeOut where
  plantCode := plantCode
  periodType := periodType
  scope1Kgco2 := report.scope1Kgco2
  scope2Kgco2 := report.scope2Kgco2
  scope3Kgco2 := report.scope3Kgco2
  totalKgco2 := report.scope1Kgco2 + report.scope2Kgco2 + report.scope3Kgco2.getD 0
  carbonIntensityKgco2Ton := report.carbonIntensityKgco2Ton
  productTon := report.productTon
  factorsVersion := report.factorsVersion
  reportId := id
  periodStart := report.periodStart
  periodEnd := report.periodEnd
  assuranceStatus := report.assuranceStatus.map AssuranceStatus.text

def memoryScopeOut (periodType : PeriodType) (report : MemoryCarbonReport) : CarbonScopeOut where
  plantCode := report.plantCode
  periodType := periodType
  scope1Kgco2 := report.scope1Kgco2
  scope2Kgco2 := report.scope2Kgco2
  scope3Kgco2 := some report.scope3Kgco2
  totalKgco2 := report.scope1Kgco2 + report.scope2Kgco2 + report.scope3Kgco2
  carbonIntensityKgco2Ton := some report.carbonIntensityKgco2Ton
  productTon := some report.productTon
  factorsVersion := some report.factorsVersion
  reportId := report.id
  periodStart := report.periodStart
  periodEnd := report.periodEnd
  assuranceStatus := some report.assuranceStatus.text

/-- The figures of a period, from the newest report of the plant. An empty code is looked for like any other when
nothing is stored. -/
def carbonScopes (env : ReadEnv) (plantCode : String) (periodType : PeriodType) (server : CarbonServer) :
    Except HttpError CarbonScopeOut × CarbonServer :=
  match storedReports env (some plantCode) (some periodType) 1 server.db with
  | (id, report, code) :: _ => (.ok (scopeOut periodType id report code), server)
  | [] =>
    if env.generate.ctx.cfg.allowDemoMemory then
      match server.memory.list (some plantCode) (some periodType) 1 with
      | report :: _ => (.ok (memoryScopeOut periodType report), server)
      | [] =>
        match generateMemoryReport env.generate.ctx env.generate.now env.generate.demo plantCode periodType false
            server.memory with
        | (none, stored) => (.error internalError, { server with memory := stored })
        | (some made, stored) => (.ok (memoryScopeOut periodType made), { server with memory := stored })
    else (.error (noPeriodReport periodType plantCode), server)

inductive CarbonRead where
  | reports (plantCode : Option String) (periodType : Option PeriodType) (limit : PageLimit 500)
  | scopes (plantCode : String) (periodType : PeriodType)

def readStep (server : CarbonServer) (read : ReadEnv × CarbonRead) : CarbonServer :=
  match read.2 with
  | .reports plantCode periodType limit => (getReports read.1 plantCode periodType limit server).2
  | .scopes plantCode periodType => (carbonScopes read.1 plantCode periodType server).2

/-! ### The reports that the memory lists -/

section
variable {memory next : MemoryReportStore} {plantCode : Option String} {periodType : Option PeriodType} {limit : Nat}

def asked (plantCode : Option String) (periodType : Option PeriodType) (report : MemoryCarbonReport) : Bool :=
  (plantCode.getD "" = "" ∨ plantCode = some report.plantCode) ∧ (periodType = none ∨ periodType = some report.periodType)

theorem list_eq (memory : MemoryReportStore) (plantCode : Option String) (periodType : Option PeriodType) (limit : Nat) :
    memory.list plantCode periodType limit =
      (orderBy (fun report => -report.createdAt) (memory.reports.values.filter (asked plantCode periodType))).take limit := by
  unfold MemoryReportStore.list
  dsimp only
  rw [List.filter_filter, filter_orderBy]
  congr 3
  funext report
  unfold asked
  rw [Bool.decide_and, Bool.and_comm]

theorem list_nil (positive : 1 ≤ limit) :
    memory.list plantCode periodType limit = [] ↔ memory.reports.values.filter (asked plantCode periodType) = [] := by
  rw [list_eq, List.take_eq_nil_iff, ← List.length_eq_zero_iff, length_orderBy, List.length_eq_zero_iff]
  exact or_iff_right (by omega)

theorem mem_list {report : MemoryCarbonReport} (listed : report ∈ memory.list plantCode periodType limit) :
    report ∈ memory.reports.values ∧ asked plantCode periodType report = true := by
  rw [list_eq] at listed
  exact List.mem_filter.mp (mem_orderBy.mp (List.mem_of_mem_take listed))

theorem asked_iff {code : String} {period : PeriodType} {report : MemoryCarbonReport} (named : code ≠ "") :
    asked (some code) (some period) report = true ↔ report.plantCode = code ∧ report.periodType = period := by
  simp only [asked, Bool.decide_and, Bool.and_eq_true, decide_eq_true_eq, Option.getD_some, named, false_or,
    Option.some.injEq, reduceCtorEq]
  exact ⟨fun own => ⟨own.1.symm, own.2.symm⟩, fun own => ⟨own.1.symm, own.2.symm⟩⟩

/-- What a read does to the memory: nothing, or the first report of a plant and period. -/
inductive Gained (memory : MemoryReportStore) : MemoryReportStore → Prop where
  | kept : Gained memory memory
  | made (report : MemoryCarbonReport)
      (first : memory.reports.values.filter (asked (some report.plantCode) (some report.periodType)) = []) :
      Gained memory ⟨memory.nextId + 1, memory.reports.set memory.nextId report⟩

theorem generateMemoryReport_new {code : String} (positive : 1 ≤ limit)
    (missing : memory.list (some code) periodType limit = []) (ctx : GenerateContext) (now : Datetime)
    (demo : DemoReadings) (completedOnly : Bool) :
    generateMemoryReport ctx now demo code (periodType.getD .daily) completedOnly memory = (none, memory) ∨
      ∃ report, report.plantCode = code ∧ report.periodType = periodType.getD .daily ∧
        memory.reports.values.filter (asked (some code) (some (periodType.getD .daily))) = [] ∧
        generateMemoryReport ctx now demo code (periodType.getD .daily) completedOnly memory =
          (some report, ⟨memory.nextId + 1, memory.reports.set memory.nextId report⟩) := by
  have nothing : ∀ report ∈ memory.reports.values,
      asked (some code) (some (periodType.getD .daily)) report = false := by
    intro report stored
    have free := List.filter_eq_nil_iff.mp ((list_nil positive).mp missing) report stored
    cases periodType with
    | none =>
      refine Bool.eq_false_iff.mpr fun held => free ?_
      simp only [asked, Bool.decide_and, Bool.and_eq_true] at held ⊢
      exact ⟨held.1, by simp⟩
    | some period => exact Bool.eq_false_iff.mpr free
  unfold generateMemoryReport
  split
  · exact .inl rfl
  · rename_i window _
    split
    · exact .inl rfl
    · rename_i history _
      have unmatched : memory.sameReport (memoryReport ctx now code (periodType.getD .daily) window history) = none := by
        unfold MemoryReportStore.sameReport
        rw [List.find?_eq_none]
        intro item stored same
        have free := nothing item.2 (List.mem_map.mpr ⟨item, stored, rfl⟩)
        obtain ⟨plant, period, _⟩ := of_decide_eq_true same
        have samePlant : item.2.plantCode = code := plant
        have samePeriod : item.2.periodType = periodType.getD .daily := period
        have own : asked (some code) (some (periodType.getD .daily)) item.2 = true := by
          simp [asked, samePlant, samePeriod]
        exact Bool.eq_false_iff.mp free own
      refine .inr ⟨{ memoryReport ctx now code (periodType.getD .daily) window history with id := memory.nextId },
        rfl, rfl, List.filter_eq_nil_iff.mpr fun report stored => by simp [nothing report stored], ?_⟩
      unfold MemoryReportStore.upsert
      rw [unmatched, if_pos (show (memoryReport ctx now code (periodType.getD .daily) window history).id ≤ 0 from le_rfl)]

theorem gained_fresh (fresh : memory.Fresh) (gained : Gained memory next) : next.Fresh := by
  cases gained with
  | kept => exact fresh
  | made report first =>
    intro id held
    rcases Dict.present_set held with rfl | old
    · exact Nat.lt_succ_self _
    · exact Nat.lt_succ_of_lt (fresh id old)

theorem values_made (fresh : memory.Fresh) (report : MemoryCarbonReport) :
    (memory.reports.set memory.nextId report).values = memory.reports.values ++ [report] := by
  refine Dict.values_set_fresh ?_ report
  by_contra held
  exact lt_irrefl _ (fresh memory.nextId held)

/-- A plant and period that the memory lists is listed the same from then on. -/
theorem gained_list {code : String} {period : PeriodType} (named : code ≠ "") (fresh : memory.Fresh)
    (gained : Gained memory next) (listed : memory.list (some code) (some period) limit ≠ []) :
    next.list (some code) (some period) limit = memory.list (some code) (some period) limit := by
  cases gained with
  | kept => rfl
  | made report first =>
    rw [list_eq, list_eq, values_made fresh, List.filter_append]
    have other : asked (some code) (some period) report = false := by
      refine Bool.eq_false_iff.mpr fun own => listed ?_
      obtain ⟨rfl, rfl⟩ := (asked_iff named).mp own
      rw [list_eq, first]
      simp [orderBy]
    rw [List.filter_cons, if_neg (by simp [other]), List.filter_nil, List.append_nil]

/-- A demo answers a plant's listing from what its memory lists afterwards, and gains a report where it lists none. -/
theorem demoReports_listed {code : String} {env : GenerateEnv} (named : code ≠ "") (fresh : memory.Fresh)
    (positive : 1 ≤ limit) :
    Gained memory (demoReports env (some code) periodType limit memory).2 ∧
      ∀ rows, (demoReports env (some code) periodType limit memory).1 = .ok rows →
        rows ≠ [] ∧ (demoReports env (some code) periodType limit memory).2.list (some code) periodType limit = rows := by
  have code_ : namedCode (some code) = some code := by simp [namedCode, named]
  unfold demoReports
  rw [code_]
  cases missing : memory.list (some code) periodType limit with
  | cons report rest =>
    refine ⟨.kept, fun rows same => ?_⟩
    cases same
    exact ⟨List.cons_ne_nil _ _, missing⟩
  | nil =>
    dsimp only
    rcases generateMemoryReport_new positive missing env.ctx env.now env.demo false with
      failed | ⟨report, plant, period, first, made⟩
    · rw [failed]
      exact ⟨.kept, fun rows same => nomatch same⟩
    · rw [made]
      refine ⟨.made report (by rw [plant, period, first]), fun rows same => ?_⟩
      cases same
      refine ⟨List.cons_ne_nil _ _, ?_⟩
      have own : asked (some code) periodType report = true := by
        cases periodType with
        | none => simp [asked, plant]
        | some wanted => simp [asked, plant, period]
      rw [list_eq, values_made fresh, List.filter_append, (list_nil positive).mp missing, List.nil_append, List.filter_cons,
        if_pos own, List.filter_nil]
      have single : orderBy (fun report : MemoryCarbonReport => -report.createdAt) [report] = [report] := by simp [orderBy]
      rw [single]
      exact List.take_of_length_le positive

end

/-! ### Reading over and over -/

section
variable {env again : ReadEnv} {server : CarbonServer}

theorem carbonScopes_gained (env : ReadEnv) (plantCode : String) (periodType : PeriodType) (server : CarbonServer) :
    Gained server.memory (carbonScopes env plantCode periodType server).2.memory ∧
      (carbonScopes env plantCode periodType server).2.db = server.db := by
  unfold carbonScopes
  split
  · exact ⟨.kept, rfl⟩
  · split
    · split
      · exact ⟨.kept, rfl⟩
      · rename_i missing
        rcases generateMemoryReport_new le_rfl missing env.generate.ctx env.generate.now env.generate.demo false with
          failed | ⟨report, plant, period, first, made⟩
        · rw [Option.getD_some] at failed
          rw [failed]
          exact ⟨.kept, rfl⟩
        · rw [Option.getD_some] at made first period
          rw [made]
          exact ⟨.made report (by rw [plant, period, first]), rfl⟩
    · exact ⟨.kept, rfl⟩

theorem getReports_gained (env : ReadEnv) (plantCode : Option String) (periodType : Option PeriodType)
    (limit : PageLimit 500) (fresh : server.memory.Fresh) :
    Gained server.memory (getReports env plantCode periodType limit server).2.memory ∧
      (getReports env plantCode periodType limit server).2.db = server.db := by
  unfold getReports
  split
  · split
    · refine ⟨?_, rfl⟩
      cases known : namedCode plantCode with
      | none =>
        unfold demoReports
        rw [known]
        cases server.memory.list plantCode periodType limit.rows <;> exact .kept
      | some code =>
        obtain ⟨rfl, named⟩ := Option.filter_eq_some_iff.mp known
        exact (demoReports_listed (of_decide_eq_true named) fresh limit.positive).1
    · exact ⟨.kept, rfl⟩
  · exact ⟨.kept, rfl⟩

theorem read_gained (fresh : server.memory.Fresh) (read : ReadEnv × CarbonRead) :
    Gained server.memory (readStep server read).memory ∧ (readStep server read).db = server.db := by
  obtain ⟨env, read⟩ := read
  cases read with
  | reports plantCode periodType limit => exact getReports_gained env plantCode periodType limit fresh
  | scopes plantCode periodType => exact carbonScopes_gained env plantCode periodType server

/-- What reads leave: the database as it was, and what the memory lists of a plant and period once it lists any. -/
structure ReadSince (server : CarbonServer) (code : String) (period : PeriodType) (limit : Nat) (after : CarbonServer) :
    Prop where
  fresh : after.memory.Fresh
  db : after.db = server.db
  listed : server.memory.list (some code) (some period) limit ≠ [] →
    after.memory.list (some code) (some period) limit = server.memory.list (some code) (some period) limit

theorem readSince_run {code : String} {period : PeriodType} {limit : Nat} (named : code ≠ "")
    (fresh : server.memory.Fresh) (reads : List (ReadEnv × CarbonRead)) :
    ReadSince server code period limit (run readStep server reads) := by
  refine run_invariant (fun after read since => ?_) ⟨fresh, rfl, fun _ => rfl⟩
  obtain ⟨gained, same⟩ := read_gained since.fresh read
  refine ⟨gained_fresh since.fresh gained, same.trans since.db, fun any => ?_⟩
  rw [gained_list named since.fresh gained (by rwa [since.listed any]), since.listed any]

end

/-! ### Reports of one start -/

section
variable {db : CarbonDb} {plantCode : String} {periodType : PeriodType}

/-- A joined row is the report as it is found under its id. -/
theorem mem_joinedReports {row : Nat × CarbonReport × String} (joined : row ∈ joinedReports db) :
    getReport db row.1 = some row.2 := by
  obtain ⟨⟨id, report⟩, member, named⟩ := List.mem_filterMap.mp joined
  obtain ⟨plant, known, rfl⟩ := Option.map_eq_some_iff.mp named
  have found : db.reports.find? id = some report := Table.mem_rows.mp member
  unfold getReport
  rw [found, Option.bind_some, known, Option.map_some]

theorem getReport_plant {id : Nat} {report : CarbonReport} {plant : String} (found : getReport db id = some (report, plant)) :
    db.plants.get? plant = some report.plantId := by
  obtain ⟨row, present, joined⟩ := Option.bind_eq_some_iff.mp found
  obtain ⟨entry, known, same⟩ := Option.map_eq_some_iff.mp joined
  cases same
  have own : entry.2 = report.plantId := by simpa using List.find?_some known
  exact (db.plants.get?_iff_mem).mpr (own ▸ List.mem_of_find?_eq_some known)

/-- A plant has one report of a period type for each start. -/
theorem joinedReports_start (unique : UniqueKeys db) {row other : Nat × CarbonReport × String}
    (joined : row ∈ joinedReports db) (joinedOther : other ∈ joinedReports db) (plant : row.2.2 = other.2.2)
    (period : row.2.1.periodType = other.2.1.periodType)
    (start : row.2.1.periodStart.instant = other.2.1.periodStart.instant) : row = other := by
  have found := mem_joinedReports joined
  have foundOther := mem_joinedReports joinedOther
  have plantId : row.2.1.plantId = other.2.1.plantId := by
    have known := getReport_plant found
    rw [plant] at known
    exact Option.some.inj (known.symm.trans (getReport_plant foundOther))
  have key : row.2.1.key = other.2.1.key := by
    unfold CarbonReport.key
    rw [plantId, instant_injective start, period]
  have id := unique row.1 other.1 row.2.1 other.2.1 (getReport_find? found) (getReport_find? foundOther) key
  rw [id, foundOther] at found
  exact Prod.ext id (Option.some.inj found).symm

/-- So the order in which the database lists reports of one start does not show in a listing of one plant and period. -/
theorem latestReports_ties (unique : UniqueKeys db) (named : plantCode ≠ "") (ties others : Nat ↪ Nat) (limit : Nat) :
    latestReports ties db (some plantCode) (fun report => some periodType = none ∨ some periodType = some report.periodType)
        limit =
      latestReports others db (some plantCode)
        (fun report => some periodType = none ∨ some periodType = some report.periodType) limit := by
  unfold latestReports
  dsimp only
  congr 1
  generalize same : (joinedReports db).filter _ = wanted
  have own : ∀ row ∈ wanted, row ∈ joinedReports db ∧ row.2.2 = plantCode ∧ row.2.1.periodType = periodType := by
    intro row member
    rw [← same, List.mem_filter] at member
    obtain ⟨joined, asked⟩ := member
    simp only [Option.getD_some, named, false_or, Option.some.injEq, reduceCtorEq, decide_eq_true_eq] at asked
    exact ⟨joined, asked.1.symm, asked.2.symm⟩
  have agree : ∀ row ∈ wanted, ∀ other ∈ wanted, newerFirst ties row other = newerFirst others (id row) (id other) := by
    intro row member other memberOther
    obtain ⟨joined, plant, period⟩ := own row member
    obtain ⟨joinedOther, plantOther, periodOther⟩ := own other memberOther
    rw [Bool.eq_iff_iff, newerFirst_iff, newerFirst_iff]
    by_cases start : row.2.1.periodStart.instant = other.2.1.periodStart.instant
    · have one := joinedReports_start unique joined joinedOther (plant.trans plantOther.symm)
        (period.trans periodOther.symm) start
      subst one
      simp
    · have apart : ¬other.2.1.periodStart.instant = row.2.1.periodStart.instant := fun back => start back.symm
      simp [apart]
  have sorted := List.map_mergeSort agree
  rwa [List.map_id, List.map_id] at sorted

end

/-! ### The two routes agree -/

/-- The figures of a listed report; a report without a status is listed as a draft. -/
def CarbonScopeOut.Describes (figures : CarbonScopeOut) (out : CarbonReportOut) : Prop :=
  figures =
      { plantCode := out.plantCode
        periodType := out.periodType
        scope1Kgco2 := out.scope1Kgco2
        scope2Kgco2 := out.scope2Kgco2
        scope3Kgco2 := out.scope3Kgco2
        totalKgco2 := out.totalKgco2
        carbonIntensityKgco2Ton := out.carbonIntensityKgco2Ton
        productTon := out.productTon
        factorsVersion := out.factorsVersion
        reportId := out.id
        periodStart := out.periodStart
        periodEnd := out.periodEnd
        assuranceStatus := figures.assuranceStatus } ∧
    figures.assuranceStatus.getD "draft" = out.assuranceStatus

/-- The figures are those of the first report listed, and there are none where none is listed. -/
def ShowsFirst (plantCode : String) (periodType : PeriodType) :
    Except HttpError (List CarbonReportOut) → Except HttpError CarbonScopeOut → Prop
  | .ok (out :: _), .ok figures => figures.Describes out
  | .ok [], .error error => error = noPeriodReport periodType plantCode
  | .error listing, .error figures => listing = figures
  | _, _ => False

section
variable {env : ReadEnv} {plantCode : String} {periodType : PeriodType}

theorem storedReports_first (limit : PageLimit 500) (db : CarbonDb) :
    storedReports env (some plantCode) (some periodType) 1 db =
      (storedReports env (some plantCode) (some periodType) limit.rows db).take 1 := by
  unfold storedReports latestReports
  split
  · rw [List.take_take, Nat.min_eq_left limit.positive]
  · rfl

theorem list_first (limit : PageLimit 500) (memory : MemoryReportStore) :
    memory.list (some plantCode) (some periodType) 1 = (memory.list (some plantCode) (some periodType) limit.rows).take 1 := by
  rw [list_eq, list_eq, List.take_take, Nat.min_eq_left limit.positive]

theorem storedReports_period {limit : Nat} {db : CarbonDb} {row : Nat × CarbonReport × String}
    (listed : row ∈ storedReports env (some plantCode) (some periodType) limit db) : row.2.1.periodType = periodType := by
  unfold storedReports at listed
  split at listed
  · have wanted := List.mem_mergeSort.mp (List.mem_of_mem_take listed)
    have kept := (List.mem_filter.mp wanted).2
    simp only [reduceCtorEq, Option.some.injEq, false_or, decide_eq_true_eq] at kept
    exact kept.2.symm
  · cases listed

/-- Both routes leave the same stores behind, and one shows the figures of the first report of the other. -/
theorem scopes_listing (named : plantCode ≠ "") (limit : PageLimit 500) (server : CarbonServer) :
    (carbonScopes env plantCode periodType server).2 = (getReports env (some plantCode) (some periodType) limit server).2 ∧
      ShowsFirst plantCode periodType (getReports env (some plantCode) (some periodType) limit server).1
        (carbonScopes env plantCode periodType server).1 := by
  have code_ : namedCode (some plantCode) = some plantCode := by simp [namedCode, named]
  unfold carbonScopes getReports demoReports
  rw [storedReports_first limit, list_first limit, code_]
  cases stored : storedReports env (some plantCode) (some periodType) limit.rows server.db with
  | cons row rest =>
    have period : row.2.1.periodType = periodType := storedReports_period (stored ▸ List.mem_cons_self)
    refine ⟨rfl, ?_, ?_⟩
    · simp [scopeOut, reportOut, period]
    · simp only [scopeOut, reportOut, CarbonReport.status]
      cases row.2.1.assuranceStatus <;> rfl
  | nil =>
    by_cases allowed : env.generate.ctx.cfg.allowDemoMemory = true
    · dsimp only [List.take_nil]
      rw [if_pos allowed, if_pos allowed]
      cases listed : server.memory.list (some plantCode) (some periodType) limit.rows with
      | cons report rest =>
        have own := (asked_iff named).mp (mem_list (listed ▸ List.mem_cons_self)).2
        exact ⟨rfl, by simp [memoryScopeOut, memoryReportOut, own.2], rfl⟩
      | nil =>
        dsimp only [List.take_nil, Option.getD_some]
        rcases generateMemoryReport_new limit.positive listed env.generate.ctx env.generate.now env.generate.demo false with
          failed | ⟨report, plant, period, _, made⟩
        · rw [Option.getD_some] at failed
          rw [failed]
          exact ⟨rfl, rfl⟩
        · rw [Option.getD_some] at made period
          rw [made]
          exact ⟨rfl, by simp [memoryScopeOut, memoryReportOut, period], rfl⟩
    · dsimp only [List.take_nil]
      rw [if_neg allowed, if_neg allowed]
      exact ⟨rfl, rfl⟩

/-- Two reads that find the same stores answering. -/
def ReadEnv.SameStores (again env : ReadEnv) : Prop :=
  again.reachable = env.reachable ∧ again.generate.ctx.cfg.allowDemoMemory = env.generate.ctx.cfg.allowDemoMemory

/-- A listing that was answered is answered the same after any reads. -/
theorem getReports_again {server : CarbonServer} {again : ReadEnv} {limit : PageLimit 500} {rows : List CarbonReportOut}
    (named : plantCode ≠ "") (fresh : server.memory.Fresh) (unique : UniqueKeys server.db) (same : again.SameStores env)
    (answered : (getReports env (some plantCode) (some periodType) limit server).1 = .ok rows)
    (later : List (ReadEnv × CarbonRead)) :
    let after := run readStep (getReports env (some plantCode) (some periodType) limit server).2 later
    getReports again (some plantCode) (some periodType) limit after = (.ok rows, after) := by
  intro after
  have start : (getReports env (some plantCode) (some periodType) limit server).2.memory.Fresh :=
    gained_fresh fresh (getReports_gained env _ _ limit fresh).1
  have since : ReadSince _ plantCode periodType limit.rows after := readSince_run named start later
  have db : after.db = server.db := since.db.trans (getReports_gained env _ _ limit fresh).2
  have stored : storedReports again (some plantCode) (some periodType) limit.rows after.db =
      storedReports env (some plantCode) (some periodType) limit.rows server.db := by
    unfold storedReports
    rw [same.1, db, latestReports_ties unique named again.ties env.ties]
  have listed := since.listed
  unfold getReports at answered listed ⊢
  rw [stored, same.2]
  cases found : storedReports env (some plantCode) (some periodType) limit.rows server.db with
  | cons row rest =>
    rw [found] at answered
    cases answered
    rfl
  | nil =>
    rw [found] at answered listed
    dsimp only at answered listed ⊢
    by_cases allowed : env.generate.ctx.cfg.allowDemoMemory = true
    · rw [if_pos allowed] at answered listed ⊢
      dsimp only at answered listed ⊢
      cases made : (demoReports env.generate (some plantCode) (some periodType) limit.rows server.memory).1 with
      | error raised =>
        rw [made] at answered
        cases answered
      | ok reports =>
        rw [made] at answered
        cases answered
        obtain ⟨some_, held⟩ := (@demoReports_listed server.memory (some periodType) limit.rows plantCode env.generate
          named fresh limit.positive).2 reports made
        have kept : after.memory.list (some plantCode) (some periodType) limit.rows = reports :=
          (listed (by rwa [held])).trans held
        have code_ : namedCode (some plantCode) = some plantCode := by simp [namedCode, named]
        unfold demoReports
        rw [kept, code_]
        cases reports with
        | nil => exact absurd rfl some_
        | cons report rest => rfl
    · rw [if_neg allowed] at answered ⊢
      cases answered
      rfl

theorem fresh_run (plants : Dict String Nat) (readings : List SensorReading) (actions : List IdAction) :
    (run IdServer.step (.start plants readings) actions).reports.memory.Fresh := by
  have keep : ∀ (w : IdServer) action, w.reports.memory.Fresh → (w.step action).reports.memory.Fresh :=
    fun w action fresh => (stepIds w action).reportMemory.below fresh
  exact run_invariant keep MemoryReportStore.empty_fresh

theorem uniqueKeys_served (reportId : Nat) (server : CarbonServer) (request : ReportRequest) (unique : UniqueKeys server.db) :
    UniqueKeys (served reportId server request).db := by
  have assured : ∀ status t body, UniqueKeys (runTransition t body server.db).2 →
      UniqueKeys (assurance status t server body).2.db := by
    intro status t body kept
    unfold assurance
    split
    · exact unique
    · dsimp only
      rwa [dbAssurance_db]
  unfold served
  cases request with
  | submit actor comment now => exact assured .submitted _ _ (uniqueKeys_exec (.submit ⟨reportId, actor, comment, now⟩) unique)
  | approve actor comment now => exact assured .approved _ _ (uniqueKeys_exec (.approve ⟨reportId, actor, comment, now⟩) unique)
  | lock actor comment now => exact assured .locked _ _ (uniqueKeys_exec (.lock ⟨reportId, actor, comment, now⟩) unique)
  | regenerate env plantCode periodType completedOnly =>
    show UniqueKeys (generateReport env plantCode periodType completedOnly server).2.db
    rw [generateReport_db]
    exact uniqueKeys_exec _ unique

theorem uniqueKeys_reached (plants : Dict String Nat) (readings : List SensorReading) (actions : List IdAction) :
    UniqueKeys (run IdServer.step (.start plants readings) actions).reports.db := by
  have keep : ∀ (w : IdServer) action, UniqueKeys w.reports.db → UniqueKeys (w.step action).reports.db := by
    intro w action unique
    cases action with
    | reportDb op => exact uniqueKeys_exec op unique
    | reportRoute id request => exact uniqueKeys_served id w.reports request unique
    | _ => exact unique
  exact run_invariant keep (pristine_start plants readings).unique

theorem carbonScopes_ties {server : CarbonServer} (unique : UniqueKeys server.db) (named : plantCode ≠ "") (ties : Nat ↪ Nat) :
    carbonScopes { env with ties := ties } plantCode periodType server = carbonScopes env plantCode periodType server := by
  unfold carbonScopes storedReports
  rw [latestReports_ties unique named ties env.ties]

/-- In every reachable state the figures of a period are those of the first report listed for it, whichever of the two
is asked for first and however either read orders reports of one start; a demo that lists none makes one report for
both, and no later read changes what was shown. -/
theorem carbon_reads_agree (plants : Dict String Nat) (readings : List SensorReading) (actions : List IdAction)
    (env : ReadEnv) (ties : Nat ↪ Nat) (plantCode : String) (named : plantCode ≠ "") (periodType : PeriodType)
    (limit : PageLimit 500) :
    let server := (run IdServer.step (.start plants readings) actions).reports
    let listing := getReports env (some plantCode) (some periodType) limit server
    let figures := carbonScopes { env with ties := ties } plantCode periodType server
    figures.2 = listing.2 ∧ ShowsFirst plantCode periodType listing.1 figures.1 ∧
      ∀ rows, listing.1 = .ok rows → ∀ later again, again.SameStores env →
        let after := run readStep listing.2 later
        getReports again (some plantCode) (some periodType) limit after = (.ok rows, after) ∧
          (carbonScopes again plantCode periodType after).2 = after ∧
            ShowsFirst plantCode periodType (.ok rows) (carbonScopes again plantCode periodType after).1 := by
  intro server listing figures
  have unique : UniqueKeys server.db := uniqueKeys_reached plants readings actions
  have sameFigures : figures = carbonScopes env plantCode periodType server := carbonScopes_ties unique named ties
  obtain ⟨stores, first⟩ := @scopes_listing env plantCode periodType named limit server
  rw [sameFigures]
  refine ⟨stores, first, fun rows answered later again same => ?_⟩
  intro after
  have fresh : server.memory.Fresh := fresh_run plants readings actions
  have repeated : getReports again (some plantCode) (some periodType) limit after = (.ok rows, after) :=
    getReports_again named fresh unique same answered later
  have agreed := @scopes_listing again plantCode periodType named limit after
  rw [repeated] at agreed
  exact ⟨repeated, agreed⟩

/-- A demo without a database, read for the first time. -/
theorem carbon_reads_agree_olefin :
    let env : ReadEnv := { generate := sampleSurroundings, reachable := false }
    let limit : PageLimit 500 := ⟨50, by decide, by decide⟩
    let server : CarbonServer := ⟨.empty, .start .empty []⟩
    let listing := getReports env (some "olefin") (some .daily) limit server
    let figures := carbonScopes env "olefin" .daily server
    listing.1.toOption.map (List.map CarbonReportOut.id) = some [800000] ∧
      figures.2 = listing.2 ∧ ShowsFirst "olefin" .daily listing.1 figures.1 := by
  intro env limit server listing figures
  obtain ⟨stores, first, _⟩ := carbon_reads_agree .empty [] [] env env.ties "olefin" (by decide) .daily limit
  exact ⟨by decide +kernel, stores, first⟩

end

end Iems.Api
