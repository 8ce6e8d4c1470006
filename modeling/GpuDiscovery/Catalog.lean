import GpuDiscovery.Platform
import GpuDiscovery.Text.Truth

/-!
# The catalog of adapters

An enumeration reads the adapter lists that a selection calls for and keeps the retained adapters
by identifier. Lists overlap, so an adapter can be met again: what was read last stands, and an
adapter that is not retained at a later place stays retained from the earlier one.

The catalog changes only when an enumeration succeeds as a whole. It then holds the adapters and
the lists they were read from, and is stale as soon as one of these lists is.
-/

namespace GpuDiscovery

open Text Procedure

/-- The result of the latest successful enumeration, if there was one. -/
structure Catalog where
  /-- The lists that were read. -/
  lists : List Nat
  /-- The retained adapters. -/
  adapters : AdapterSet
  /-- Some enumeration succeeded. -/
  enumerated : Bool
  deriving DecidableEq

/-- Reads the properties of a listed adapter, one after the other. -/
def AdapterInfo.read (info : AdapterInfo) : Outcome AdapterRecord := do
  let luid ← info.luid.context "reading instance LUID"
  let hardwareId ← info.hardwareId.context "reading hardware ID"
  let isHardware ← info.isHardware.context "reading hardware flag"
  let isIntegrated ← info.isIntegrated.context "reading integrated flag"
  let isDetachable ← info.isDetachable.context "reading detachable flag"
  return {
    luid, hardwareId, isHardware, isIntegrated, isDetachable
    supportsDisplay := info.supports .graphics11 || info.supports .graphics12
    supportsCompute := info.supports .coreCompute }

namespace Catalog

/-- The catalog before any enumeration. -/
def initial : Catalog where
  lists := []
  adapters := .empty
  enumerated := false

/-- Nothing was enumerated, or a list that was read is stale by now. -/
def isStale (catalog : Catalog) (platform : Platform) : Bool :=
  !catalog.enumerated || catalog.lists.any platform.isStale

/-- Names a place in the list of an attribute. -/
def placeText (index : Nat) (group : AdapterAttribute) : String :=
  decimal index ++ " of " ++ group.name ++ " list"

/-- Fetches the adapter at a place of a list and reads its properties. -/
def readPlace (group : AdapterAttribute) (index : Nat) (fetched : Outcome AdapterInfo) :
    Outcome AdapterRecord := do
  let info ← fetched.context ("retrieving adapter " ++ placeText index group)
  info.read.context ("reading properties of adapter " ++ placeText index group)

/-- The note about an adapter that is not retained. -/
def skipNote (adapter : AdapterRecord) : String :=
  "skipping adapter " ++ adapter.luid.hex ++
    " (" ++ upperHex 4 adapter.hardwareId.vendorId.toNat ++
    ":" ++ upperHex 4 adapter.hardwareId.deviceId.toNat ++
    "): hardware=" ++ truth adapter.isHardware ++
    " integrated=" ++ truth adapter.isIntegrated ++
    " detachable=" ++ truth adapter.isDetachable ++
    " display=" ++ truth adapter.supportsDisplay ++
    " compute=" ++ truth adapter.supportsCompute

/-- Puts an adapter among the retained ones if it is selected. -/
def retain (selection : Selection) (group : AdapterAttribute) (adapter : AdapterRecord)
    (retained : AdapterSet) : Procedure platformSystem AdapterSet := do
  if !adapter.isSelectedBy selection then
    info (skipNote adapter)
    return retained
  -- An adapter is listed under every attribute it has, so meeting one again is no error.
  if retained.contains adapter.luid then
    info ("adapter listed again under " ++ group.name)
  return retained.insert adapter.luid adapter

/-- Reads the places of a list from `index` on. -/
def readPlaces (selection : Selection) (group : AdapterAttribute) :
    (index : Nat) → List (Outcome AdapterInfo) → AdapterSet →
      Procedure platformSystem AdapterSet
  | _, [], retained => return retained
  | index, fetched :: rest, retained => do
    let adapter ← ofOutcome (readPlace group index fetched)
    let retained ← retain selection group adapter retained
    readPlaces selection group (index + 1) rest retained

/-- Reads the lists of some attributes, onto the lists read and the adapters retained before. -/
def readGroups (selection : Selection) :
    List AdapterAttribute → List Nat → AdapterSet → Procedure platformSystem Catalog
  | [], lists, retained => return ⟨lists, retained, true⟩
  | group :: rest, lists, retained => do
    let list ← (ask (.listAdapters group)).context
      ("creating adapter list for attribute " ++ group.name)
    info (decimal list.adapters.length ++ " adapters support " ++ group.name)
    let retained ← readPlaces selection group 0 list.adapters retained
    readGroups selection rest (lists ++ [list.id]) retained

/-- Enumerates the adapters of a selection. -/
def enumerate (selection : Selection) : Procedure platformSystem Catalog := do
  let catalog ← readGroups selection (AdapterAttribute.groupsFor selection.filter) [] .empty
  info ("enumerated " ++ decimal catalog.adapters.size ++ " adapters with filter " ++
    selection.filter.name)
  return catalog

/-- Enumerates on a platform: the catalog afterwards, and how the enumeration went. One that does
not succeed leaves the catalog as it was. -/
def renew (catalog : Catalog) (platform : Platform) (selection : Selection) :
    Catalog × Run PlatformCall Catalog :=
  let run := (enumerate selection).run platform.respond
  match run.outcome with
  | .value enumerated => (enumerated, run)
  | .failed _ | .crashed => (catalog, run)

end Catalog

end GpuDiscovery
