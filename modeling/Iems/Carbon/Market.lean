import Iems.Carbon.Reports

/-! Staging and posting reports to the carbon registry. -/
namespace Iems.Carbon
open Lib Iems.Core

structure RegistryReport where
  plantCode : String
  periodType : PeriodType
  periodStart : Datetime
  periodEnd : Datetime
  scope1Kgco2 : ℚ
  scope2Kgco2 : ℚ
  scope3Kgco2 : ℚ
  totalKgco2 : ℚ
  carbonIntensityKgco2Ton : Option ℚ
  productTon : Option ℚ
  factorsVersion : Option String
  assuranceStatus : Option AssuranceStatus
  reportId : Nat
  deriving DecidableEq

def registryReport (row : Nat × CarbonReport × String) : RegistryReport :=
  let report := row.2.1
  let scope3 := report.scope3Kgco2.getD 0
  { plantCode := row.2.2
    periodType := report.periodType
    periodStart := report.periodStart
    periodEnd := report.periodEnd
    scope1Kgco2 := report.scope1Kgco2
    scope2Kgco2 := report.scope2Kgco2
    scope3Kgco2 := scope3
    totalKgco2 := report.scope1Kgco2 + report.scope2Kgco2 + scope3
    carbonIntensityKgco2Ton := report.carbonIntensityKgco2Ton
    productTon := report.productTon
    factorsVersion := report.factorsVersion
    assuranceStatus := report.assuranceStatus
    reportId := row.1 }

def buildRegistryPayload (ties : Nat ↪ Nat) (db : CarbonDb) (plantCode : Option String) (limit : Nat)
    (lockedOnly : Bool) : List RegistryReport :=
  (latestReports ties db plantCode (fun report => !lockedOnly || report.assuranceStatus = some .locked)
    limit).map registryReport

/-- A response body; the fields of an object are the `str()` of its truthy values. -/
inductive RegistryBody where
  | empty
  | invalid
  | object (id reference : Option String)
  | other

inductive RegistryReply where
  | failed (errorClass : String)
  | response (statusCode : Nat) (body : RegistryBody)

/-- The external reference, or the class of the exception raised on the way to it. -/
def readReply : RegistryReply → Except String String
  | .failed errorClass => .error errorClass
  | .response statusCode body =>
    if statusCode < 200 ∨ 300 ≤ statusCode then .error "HTTPStatusError"
    else
      match body with
      | .empty => .ok (toString statusCode)
      | .invalid => .error "JSONDecodeError"
      | .object id reference => .ok ((id.or reference).getD (toString statusCode))
      | .other => .error "AttributeError"

/-- What surrounds a sync; `ties` is the order in which the database lists reports of one period start. -/
structure SyncContext where
  cfg : Settings
  stagingDir : String
  batchId : String
  now : Int
  reply : RegistryReply
  ties : Nat ↪ Nat := .refl Nat

def syncOutcome (ctx : SyncContext) (payload : List RegistryReport) (lockedOnly : Bool) :
    String × String × Option String :=
  let path := ctx.stagingDir ++ "/market_sync_" ++ ctx.batchId ++ ".json"
  let count := toString payload.length
  if payload = [] ∧ lockedOnly then
    ("empty",
      "No locked reports to sync. Complete assurance " ++
        "(submit → approve → lock) or set CARBON_MARKET_REQUIRE_LOCKED=false", none)
  else if ctx.cfg.carbonMarketApiUrl ≠ "" ∧ payload ≠ [] then
    match readReply ctx.reply with
    | .ok ref =>
      ("synced", "Posted " ++ count ++ " report(s) to " ++ ctx.cfg.carbonMarketRegistryName ++
        (if ref = "" then "" else " (ref=" ++ ref ++ ")"), some ref)
    | .error errorClass =>
      ("error", "API sync failed (" ++ errorClass ++ "); payload kept at " ++ path, none)
  else ("staged", "Staged " ++ count ++ " report(s) at " ++ path, none)

def syncCarbonMarket (ctx : SyncContext) (plantCode : Option String) (forceUnlocked : Bool)
    (db : CarbonDb) : CarbonMarketSync × CarbonDb :=
  let lockedOnly := ctx.cfg.carbonMarketRequireLocked && !forceUnlocked
  let payload := buildRegistryPayload ctx.ties db plantCode 20 lockedOnly
  let (status, message, externalRef) := syncOutcome ctx payload lockedOnly
  let record : CarbonMarketSync :=
    { batchId := ctx.batchId
      plantCode := plantCode
      status := status
      registry := ctx.cfg.carbonMarketRegistryName
      message := message
      reportsSynced := payload.length
      payloadPath := some (ctx.stagingDir ++ "/market_sync_" ++ ctx.batchId ++ ".json")
      externalRef := externalRef
      syncedAt := ctx.now }
  (record, { db with marketSyncs := db.marketSyncs.insert record })

end Iems.Carbon
