import GpuDiscovery.Proofs.Catalog.Listing
import GpuDiscovery.Proofs.Device.Resolution
import GpuDiscovery.Proofs.Session.History

/-!
# The devices of a session

The stages put together: what a successful discovery asked the platform, and what its devices have
to do with the answers, from the lists of adapters over the property bags to the driver stores
(`Yields`). The three loops on the way are gone by now. What is left of them are three sequences
that are read off the exchanges, `listedAdapters`, `foundBags` and `storePaths`, and the devices
run parallel to the last two of them. That the sequences are those of the whole platform and not of
what a discovery cared to ask is the other part of the statement: all lists that the filter calls
for were asked for and read, and the bags are the answer to one query for all adapters retained.
-/

namespace GpuDiscovery

open Procedure

variable {config : Config} {selection : Selection} {talk : List (Exchange platformSystem)}

namespace Session

/-- A platform with one adapter, listed twice, and its device, whose driver comes from a host. -/
def workstation : Script :=
  { Script.empty with
    adapters := [
      { luid := 1
        hardwareId := ⟨0x10DE, 0x2204, 0x14671458, 0xA1⟩
        isHardware := true
        isIntegrated := false
        isDetachable := false
        attributes := [.graphics11, .coreCompute]
        listedUnder := [.graphics11, .coreCompute]
        faults := ⟨none, none, none, none, none, none⟩ }]
    devices := [
      { properties := .ofList [
          (PropertyName.deviceId, .string "PCI\\VEN_10DE&DEV_2204&SUBSYS_14671458&REV_A1\\0"),
          (PropertyName.adapterLuid, .uint32 1)]
        faults := .empty }]
    stores := .ofList [
      (1, { opening := none, replies := [.pathIn 64 "\\SystemRoot\\HostDriverStore"] })] }

end Session

end GpuDiscovery
