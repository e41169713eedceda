import ImageDispatch.Cache.Basic
import ImageDispatch.Telemetry.Event
import ImageDispatch.Text.Setting

/-!
# Configuration

What can be chosen about a dispatcher: where its dynamic extensions come from, how long façades
keep their implementations, when the creation of contrast enhancers is given up, and which spans
are logged.

* `Config.ofSettings`: the configuration that a lookup of settings describes. Settings that are
  missing or make no sense leave the default in place.
* `Config.settingReport`: what is logged about a setting that makes no sense.
-/

namespace ImageDispatch

/-- Which spans are logged. -/
structure SpanSettings where
  /-- A span for each call of a façade. -/
  facades : Bool := true
  /-- A span for each query, which are many while caches fill. -/
  queries : Bool := false
  deriving DecidableEq, Inhabited

/-- Every span. -/
def SpanSettings.all : SpanSettings := ⟨true, true⟩

/-- No span. -/
def SpanSettings.none : SpanSettings := ⟨false, false⟩

/-- Name of the vendor library, for the system to find. -/
def defaultVendorLibrary : String := "libvideoprocessingengine_ext.so"

/-- A configuration. -/
structure Config where
  /-- Path of the vendor library, if there is one. -/
  vendorLibrary : Option String := some defaultVendorLibrary
  /-- Dynamic sources of extensions are used. -/
  dynamicLoading : Bool := true
  /-- Which implementations a façade keeps. -/
  cachePolicy : CachePolicy := .unbounded
  /-- Number of consecutive failures to create a contrast enhancer that are tolerated. -/
  failureThreshold : UInt32 := 3
  spans : SpanSettings := {}
  deriving Inhabited

namespace Config

/-- The configuration without dynamic sources. -/
def staticOnly : Config := { vendorLibrary := none, dynamicLoading := false }

/-! ## Settings -/

/-- The setting of the path of the vendor library. -/
def vendorLibrarySetting : String := "VPE_EXTENSION_LIBRARY"

/-- The setting that turns dynamic sources off. -/
def disableDynamicSetting : String := "VPE_DISABLE_DYNAMIC_EXTENSIONS"

/-- The setting that bounds the caches of façades. -/
def cacheCapacitySetting : String := "VPE_FACADE_CACHE_CAPACITY"

/-- The setting is on. -/
def isOn (value : String) : Bool := Text.trimBlank value ∈ ["1", "true", "yes"]

/-- A capacity, which has to be positive and to fit in 64 bits. -/
def capacity? (value : String) : Option CachePolicy :=
  match Text.natural? UInt64.size (Text.trimBlank value) with
  | some (n + 1) => some (.recent (n + 1) (by omega))
  | _ => none

/-- The configuration that the settings describe. -/
def ofSettings (lookup : String → Option String) : Config :=
  { vendorLibrary :=
      match (lookup vendorLibrarySetting).filter fun path => !path.isEmpty with
      | some path => some path
      | none => some defaultVendorLibrary
    dynamicLoading := !((lookup disableDynamicSetting).any isOn)
    cachePolicy := ((lookup cacheCapacitySetting).bind capacity?).getD .unbounded }

/-- What is logged while the settings are read: a warning about a capacity that makes no sense. -/
def settingReport (lookup : String → Option String) : List Event :=
  match lookup cacheCapacitySetting with
  | none => []
  | some value =>
    if (capacity? value).isSome then []
    else
      [.log .warn
        s!"ignoring {cacheCapacitySetting}={Text.quoted value}: expected a positive integer"]

/-! ## Comparison -/

/-- The names on a path. Slashes that follow each other count as one, and a name of one dot counts
at the front only. -/
def pathNames (path : String) : List String :=
  let parts := path.splitOn "/"
  let names := parts.filter fun part => part ≠ "" ∧ part ≠ "."
  if parts.head? = some "." then "." :: names else names

/-- The paths lead to the same place. -/
def samePath (a b : String) : Bool :=
  a.startsWith "/" = b.startsWith "/" && pathNames a = pathNames b

/-- The configuration makes the default choices. -/
def isDefault (c : Config) : Bool :=
  c.vendorLibrary.any (samePath defaultVendorLibrary) && c.dynamicLoading &&
    c.cachePolicy = .unbounded && c.failureThreshold = 3 && c.spans = {}

end Config

end ImageDispatch
