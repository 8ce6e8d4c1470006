import GpuDiscovery.Device.Record
import GpuDiscovery.Foreign.Library
import GpuDiscovery.Json.Device
import GpuDiscovery.Probe.Arguments
import GpuDiscovery.Session
import GpuDiscovery.Text.Truth

/-!
# The probe

A discovery whose devices are written out for a person or as JSON. Nothing is written unless the
discovery succeeds.
-/

namespace GpuDiscovery

open Text

/-! ## The report for a person -/

/-- A line with its end. -/
def line (text : String) : String :=
  text ++ "\n"

/-- The lines about a list of runtime files. -/
def runtimeFilesReport (directory : String) (files : List RuntimeFile) : List String :=
  ["", decimal files.length ++ " Additional " ++ directory ++ " runtime files:"] ++
    files.map fun file => "    " ++ file.text

/-- The lines about a device. -/
def deviceReport (index : Nat) (device : DeviceRecord) : List String :=
  ["[Device " ++ decimal index ++ " details]",
   "",
   "PnP Hardware ID:     " ++ device.id,
   "DX Adapter LUID:     " ++ device.adapter.luid.text,
   "Description:         " ++ device.description,
   "Driver Registry Key: " ++ device.driverRegistryKey,
   "DriverStore Path:    " ++ device.driverStorePath,
   "LocationPath:        " ++ device.locationPath,
   "Vendor:              " ++ device.vendor,
   "Is Integrated:       " ++ truth device.adapter.isIntegrated,
   "Is Detachable:       " ++ truth device.adapter.isDetachable,
   "Supports Display:    " ++ truth device.adapter.supportsDisplay,
   "Supports Compute:    " ++ truth device.adapter.supportsCompute] ++
    runtimeFilesReport "System32" (device.files .primary) ++
    runtimeFilesReport "SysWOW64" (device.files .wow64) ++
    [""]

/-- The lines about devices from `index` on. -/
def deviceReports : (index : Nat) → List DeviceRecord → List String
  | _, [] => []
  | index, device :: rest => deviceReport index device ++ deviceReports (index + 1) rest

/-- The lines about all devices. -/
def report (devices : List DeviceRecord) : List String :=
  ["DirectX device discovery library version " ++ libraryVersion,
   "Discovered " ++ decimal devices.length ++ " devices.",
   ""] ++ deviceReports 0 devices

/-- What is written about devices. -/
def render (devices : List DeviceRecord) : OutputFormat → String
  | .text => String.join ((report devices).map line)
  | .json => line (devicesToJson devices).pretty

/-! ## Running the probe -/

/-- What the probe leaves behind: what it wrote, what it said of a failure or of wrong arguments,
what it logged, and its exit code. -/
structure ProbeResult where
  output : String
  failure : Option String
  usageNote : Option String
  log : List LogLine
  exitCode : UInt32
  deriving DecidableEq, Repr

/-- The version of the probe. -/
def probeVersion : String := "dxdevice_probe 0.1.0"

/-- The explanation of the options. -/
def probeHelp : List String :=
  ["Prints the DirectX devices visible to this machine and their runtime files",
   "",
   "Usage: dxdevice-probe [OPTIONS]",
   "",
   "Options:",
   "      --filter <FILTER>     Capability filter applied to the enumerated adapters " ++
     "[default: AllDevices]",
   "      --exclude-integrated  Skip integrated adapters",
   "      --exclude-detachable  Skip adapters that can be removed at runtime",
   "      --format <FORMAT>     [default: text] [possible values: text, json]",
   "      --verbose             Log every discovery step to stderr",
   "  -h, --help                Print help",
   "  -V, --version             Print version"]

namespace ProbeOptions

/-- The selection that the options make. -/
def selection (options : ProbeOptions) : Selection where
  filter := options.filter.getD .all
  includeIntegrated := !options.excludeIntegrated
  includeDetachable := !options.excludeDetachable

/-- Discovers devices in a session: what is written about them, and what happened. -/
def discoverAndRender (options : ProbeOptions) (platform : Platform) (session : Session) :
    Run PlatformCall String :=
  let (session, run) := session.discover platform options.selection
  let rendered := run.outcome.bind fun _ =>
    (Outcome.ofExcept session.allDevices).bind fun devices =>
      .value (render devices (options.format.getD .text))
  ⟨rendered, run.events⟩

end ProbeOptions

/-- Runs the probe. A crash ends it with the exit code of one that was cut off. -/
def runProbe (arguments : List String) (platform : Platform) (environmentRoot : Option String) :
    ProbeResult :=
  match ProbeRequest.ofArguments arguments with
  | .help => ⟨String.join (probeHelp.map line), none, none, [], 0⟩
  | .version => ⟨line probeVersion, none, none, [], 0⟩
  | .usageError argument =>
    ⟨"", none, some (line ("error: unexpected or incomplete argument: " ++ argument)), [], 2⟩
  | .discover options =>
    let run := options.discoverAndRender platform (.new (.default environmentRoot))
    let log := logLines options.verbose run.events
    match run.outcome with
    | .value output => ⟨output, none, none, log, 0⟩
    | .failed e => ⟨"", some (line ("Error: " ++ e.text)), none, log, 1⟩
    | .crashed => ⟨"", none, none, log, 101⟩

end GpuDiscovery
