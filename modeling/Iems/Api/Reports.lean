import Iems.Api.Deps
import Iems.Carbon.Requests
import Iems.Demo.MemoryReports
import Iems.Lib.Agreement

/-! The report routes, over the reports in memory and over the database. -/
namespace Iems.Api
open Lib Iems.Carbon Iems.Demo

structure CarbonServer where
  memory : MemoryReportStore
  db : CarbonDb

structure CarbonReportOut where
  id : Nat
  plantCode : String
  periodType : PeriodType
  periodStart : Datetime
  periodEnd : Datetime
  scope1Kgco2 : ℚ
  scope2Kgco2 : ℚ
  scope3Kgco2 : Option ℚ
  totalKgco2 : ℚ
  carbonIntensityKgco2Ton : Option ℚ
  productTon : Option ℚ
  sampleCount : Option Nat
  factorsVersion : Option String
  assuranceStatus : String
  submittedBy : Option String
  approvedBy : Option String
  lockedBy : Option String
  createdAt : Int

def reportOut (id : Nat) (report : CarbonReport) (plantCode : String) : CarbonReportOut where
  id := id
  plantCode := plantCode
  periodType := report.periodType
  periodStart := report.periodStart
  periodEnd := report.periodEnd
  scope1Kgco2 := report.scope1Kgco2
  scope2Kgco2 := report.scope2Kgco2
  scope3Kgco2 := report.scope3Kgco2
  totalKgco2 := report.scope1Kgco2 + report.scope2Kgco2 + report.scope3Kgco2.getD 0
  carbonIntensityKgco2Ton := report.carbonIntensityKgco2Ton
  productTon := report.productTon
  sampleCount := report.sampleCount
  factorsVersion := report.factorsVersion
  assuranceStatus := report.status.text
  submittedBy := report.submittedBy
  approvedBy := report.approvedBy
  lockedBy := report.lockedBy
  createdAt := report.createdAt

def memoryReportOut (report : MemoryCarbonReport) : CarbonReportOut where
  id := report.id
  plantCode := report.plantCode
  periodType := report.periodType
  periodStart := report.periodStart
  periodEnd := report.periodEnd
  scope1Kgco2 := report.scope1Kgco2
  scope2Kgco2 := report.scope2Kgco2
  scope3Kgco2 := some report.scope3Kgco2
  totalKgco2 := report.scope1Kgco2 + report.scope2Kgco2 + report.scope3Kgco2
  carbonIntensityKgco2Ton := some report.carbonIntensityKgco2Ton
  productTon := some report.productTon
  sampleCount := some report.sampleCount
  factorsVersion := some report.factorsVersion
  assuranceStatus := report.assuranceStatus.text
  submittedBy := report.submittedBy
  approvedBy := report.approvedBy
  lockedBy := report.lockedBy
  createdAt := report.createdAt

def reportNotFound : HttpError := ⟨404, "Report not found"⟩

/-- The `except` clauses of the assurance routes; what they do not name is answered with 500. -/
def carbonHttp : CarbonError → HttpError
  | .keyError _ => reportNotFound
  | .assurance message => ⟨409, message⟩
  | .valueError _ | .integrity | .dateRange => internalError

/-! ### Submit, approve and lock -/

def memoryAssurance (memory : MemoryReportStore) (status : MemoryAssurance) (body : AssuranceRequest) :
    Except HttpError CarbonReportOut × MemoryReportStore :=
  match memory.setAssurance body.reportId status body.actor with
  | (.error raised, stored) => (.error (carbonHttp raised), stored)
  | (.ok report, stored) => (.ok (memoryReportOut report), stored)

def dbAssurance (db : CarbonDb) (t : Transition) (body : AssuranceRequest) :
    Except HttpError CarbonReportOut × CarbonDb :=
  match runTransition t body db with
  | (.error raised, committed) => (.error (carbonHttp raised), committed)
  | (.ok _, committed) =>
    match getReport committed body.reportId with
    | none => (.error internalError, committed)
    | some (report, plantCode) => (.ok (reportOut body.reportId report plantCode), committed)

/-- The id decides between the two stores. -/
def assurance (status : MemoryAssurance) (t : Transition) (server : CarbonServer) (body : AssuranceRequest) :
    Except HttpError CarbonReportOut × CarbonServer :=
  if isMemoryReportId body.reportId then
    let (response, memory) := memoryAssurance server.memory status body
    (response, { server with memory := memory })
  else
    let (response, db) := dbAssurance server.db t body
    (response, { server with db := db })

def submitAssurance (server : CarbonServer) (body : AssuranceRequest) : Except HttpError CarbonReportOut × CarbonServer :=
  assurance .submitted submitTransition server body

def approveAssurance (server : CarbonServer) (body : AssuranceRequest) : Except HttpError CarbonReportOut × CarbonServer :=
  assurance .approved approveTransition server body

def lockAssurance (server : CarbonServer) (body : AssuranceRequest) : Except HttpError CarbonReportOut × CarbonServer :=
  assurance .locked lockTransition server body

/-! ### Generating -/

/-- What surrounds a generation: the sensor table, and what the demo memory of the plant holds. -/
structure GenerateEnv where
  ctx : GenerateContext
  now : Datetime
  readings : List SensorReading
  demo : DemoReadings

def GenerateEnv.request (env : GenerateEnv) (plantCode : String) (periodType : PeriodType) (completedOnly : Bool) :
    GenerateRequest := { plantCode, periodType, completedOnly, now := env.now }

/-- The database with the sensor table as the generation finds it. -/
def GenerateEnv.found (env : GenerateEnv) (db : CarbonDb) : CarbonDb := { db with readings := env.readings }

/-- The database's answer for one plant and period; whatever it raises is taken for no report. -/
def generatedInDb (env : GenerateEnv) (plantCode : String) (periodType : PeriodType) (completedOnly : Bool)
    (db : CarbonDb) : Option CarbonReportOut × CarbonDb :=
  match generateAndPersistReport env.ctx (env.request plantCode periodType completedOnly) (env.found db) with
  | (.ok (some generated), committed) =>
    (generated.report.map fun report => reportOut generated.reportId report generated.plantCode, committed)
  | (_, committed) => (none, committed)

/-- One plant and period of a generate request: the database, then the memory where it is allowed; `none` where
neither yields a report. -/
def generateReport (env : GenerateEnv) (plantCode : String) (periodType : PeriodType) (completedOnly : Bool)
    (server : CarbonServer) : Option CarbonReportOut × CarbonServer :=
  match generatedInDb env plantCode periodType completedOnly server.db with
  | (some out, db) => (some out, { server with db := db })
  | (none, db) =>
    if env.ctx.cfg.allowDemoMemory then
      let (made, memory) := generateMemoryReport env.ctx env.now env.demo plantCode periodType completedOnly server.memory
      (made.map memoryReportOut, ⟨memory, db⟩)
    else (none, { server with db := db })

/-! ### Requests on one report -/

inductive ReportRequest where
  | submit (actor : String) (comment : Option String) (now : Int)
  | approve (actor : String) (comment : Option String) (now : Int)
  | lock (actor : String) (comment : Option String) (now : Int)
  | regenerate (env : GenerateEnv) (plantCode : String) (periodType : PeriodType) (completedOnly : Bool)

/-- The report that a request gives back, if it is not refused. -/
def serve (reportId : Nat) (server : CarbonServer) : ReportRequest → Option CarbonReportOut × CarbonServer
  | .submit actor comment now =>
    let (response, next) := submitAssurance server { reportId, actor, comment, now }
    (response.toOption, next)
  | .approve actor comment now =>
    let (response, next) := approveAssurance server { reportId, actor, comment, now }
    (response.toOption, next)
  | .lock actor comment now =>
    let (response, next) := lockAssurance server { reportId, actor, comment, now }
    (response.toOption, next)
  | .regenerate env plantCode periodType completedOnly => generateReport env plantCode periodType completedOnly server

def served (reportId : Nat) (server : CarbonServer) (request : ReportRequest) : CarbonServer :=
  (serve reportId server request).2

def grants (reportId : Nat) (server : CarbonServer) (request : ReportRequest) : Bool :=
  (serve reportId server request).1.isSome

/-- The report as the routes show it. -/
def shown (reportId : Nat) (server : CarbonServer) : Option CarbonReportOut :=
  if isMemoryReportId reportId then (server.memory.get reportId).map memoryReportOut
  else (getReport server.db reportId).map fun found => reportOut reportId found.1 found.2

end Iems.Api
