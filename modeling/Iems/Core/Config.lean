import Mathlib.Data.Rat.Defs

/-! Application settings, with the defaults of the settings class. -/
namespace Iems.Core

/-- The characters `str.strip` removes. -/
def isSpace (c : Char) : Bool :=
  let n := c.toNat
  (0x09 ≤ n && n ≤ 0x0D) || (0x1C ≤ n && n ≤ 0x20) || n == 0x85 || n == 0xA0 || n == 0x1680 ||
    (0x2000 ≤ n && n ≤ 0x200A) || n == 0x2028 || n == 0x2029 || n == 0x202F || n == 0x205F ||
    n == 0x3000

def strip (s : List Char) : List Char :=
  ((s.dropWhile isSpace).reverse.dropWhile isSpace).reverse

/-- `str.split` at commas: `field` collects the current piece backwards. -/
def splitCommas : List Char → List Char → List (List Char)
  | [], field => [field.reverse]
  | c :: rest, field =>
    if c = ',' then field.reverse :: splitCommas rest [] else splitCommas rest (c :: field)

/-- The non-empty stripped entries of a comma-separated setting. -/
def commaList (s : String) : List String :=
  (((splitCommas s.toList []).map strip).filter (· ≠ [])).map String.ofList

structure Settings where
  appEnv : String := "development"
  appDebug : Bool := true
  secretKey : String := "change-me-in-production"
  authEnforce : Bool := false
  authLoginRequire2fa : Bool := false
  authTokenTtlSeconds : Int := 3600
  oidcEnabled : Bool := false
  oidcIssuer : String := ""
  oidcClientId : String := ""
  oidcClientSecret : String := ""
  oidcRedirectUri : String := "http://localhost:8000/api/v1/auth/oidc/callback"
  oidcScopes : String := "openid profile email"
  oidcRoleClaim : String := "roles"
  oidcAdminRoles : String := "iems-admin,admin"
  oidcOperatorRoles : String := "iems-operator,operator"
  oidcViewerRoles : String := "iems-viewer,viewer"
  oidcDevBypass : Bool := false
  demoFeeder : Bool := false
  demoMemoryOnly : Bool := false
  demoPreferMemory : Bool := false
  opcUaEndpoint : String := ""
  opcUaUsername : String := ""
  opcUaPassword : String := ""
  opcUaUseSubscription : Bool := true
  opcUaAllowUncertain : Bool := true
  plantConnect : Bool := false
  ingestionSource : String := "simulator"
  unitCodes : String := "olefin,pta"
  producerPlantCodes : String := "olefin"
  staleDataSeconds : ℚ := 5
  streamAlertCooldownSeconds : ℚ := 30
  efNaturalGasKgco2PerM3 : ℚ := 2
  efSteamKgco2PerTon : ℚ := 3 / 10
  efElectricityKgco2PerKwh : ℚ := 1 / 2
  carbonMarketRegistryName : String := "khalij-carbon-registry"
  carbonMarketApiUrl : String := ""
  carbonMarketRequireLocked : Bool := true
  carbonReportIntervalSeconds : Int := 300
  carbonReportCompletedOnly : Bool := false
  opcWriteEnabled : Bool := false
  opcWriteDryRunDefault : Bool := true
  mlflowEnabled : Bool := false
  mlSeed : Int := 42
  mlSyntheticSamples : Nat := 1500
  mlMinRealSamples : Nat := 50
  mlTrainSampleLimit : Nat := 5000
  mlLookbackHours : Int := 48
  mlTestRatio : ℚ := 1 / 5
  mlVsgMethod : String := "mc"
  mlVsgSamples : Int := 300
  mlElmHidden : Nat := 64
  mlLstmLookback : Nat := 8
  mlLstmHidden : Nat := 16
  mlLstmEpochs : Int := 20
  mlLstmLr : ℚ := 1 / 100
  mlMapeTarget : ℚ := 5
  mlTrustedMode : Bool := false
  mlAllowSynthetic : Bool := true
  mlAllowPhysicsFallback : Bool := true
  mlAllowVsgInTrusted : Bool := false
  mlHoldoutRatio : ℚ := 1 / 5
  mlDriftPsiThreshold : ℚ := 1 / 5
  mlPreferTorchLstm : Bool := false
  optRequireSimBeforeApply : Bool := true
  optImpactWindowMinutes : Nat := 15
  optWritableFields : String := "reactor_temp_c,feed_flow_tonh"
  rtoPersistIntervalSeconds : Int := 120
  siteCode : String := "khalij"
  siteName : String := "Khalij Complex"

def Settings.writableFieldList (cfg : Settings) : List String := commaList cfg.optWritableFields

def Settings.allowDemoMemory (cfg : Settings) : Bool :=
  if cfg.plantConnect then false
  else if cfg.appDebug || cfg.appEnv == "development" then true
  else cfg.demoPreferMemory || cfg.demoMemoryOnly || cfg.demoFeeder

/-- Plant connect or explicit trusted mode. -/
def Settings.trustedModeActive (cfg : Settings) : Bool := cfg.plantConnect || cfg.mlTrustedMode

def Settings.allowMlSynthetic (cfg : Settings) : Bool := if cfg.trustedModeActive then false else cfg.mlAllowSynthetic

def Settings.allowMlPhysicsFallback (cfg : Settings) : Bool :=
  if cfg.trustedModeActive then false else cfg.mlAllowPhysicsFallback

def Settings.unitCodeList (cfg : Settings) : List String := commaList cfg.unitCodes

def Settings.producerPlantCodeList (cfg : Settings) : List String := commaList cfg.producerPlantCodes

example : ({} : Settings).writableFieldList = ["reactor_temp_c", "feed_flow_tonh"] := by decide

end Iems.Core
