import GpuDiscovery.Adapter.Attribute
import GpuDiscovery.Adapter.HardwareId
import GpuDiscovery.Adapter.Luid
import GpuDiscovery.Adapter.Record
import GpuDiscovery.Catalog
import GpuDiscovery.Config
import GpuDiscovery.Correlation
import GpuDiscovery.Device.Field
import GpuDiscovery.Device.Record
import GpuDiscovery.Device.RuntimeFile
import GpuDiscovery.Error
import GpuDiscovery.Filter
import GpuDiscovery.Foreign.Instance
import GpuDiscovery.Foreign.Library
import GpuDiscovery.GrowingQuery
import GpuDiscovery.Json.Device
import GpuDiscovery.Json.Value
import GpuDiscovery.Logger
import GpuDiscovery.Main
import GpuDiscovery.Outcome
import GpuDiscovery.Platform
import GpuDiscovery.Platform.Script
import GpuDiscovery.Platform.Simulation
import GpuDiscovery.Probe.Arguments
import GpuDiscovery.Probe.Report
import GpuDiscovery.Procedure
import GpuDiscovery.Property.DeviceQuery
import GpuDiscovery.Property.Key
import GpuDiscovery.Property.Value
import GpuDiscovery.Registry.MultiString
import GpuDiscovery.Registry.Path
import GpuDiscovery.Resolution
import GpuDiscovery.Session
import GpuDiscovery.SortedMap
import GpuDiscovery.Text.Blank
import GpuDiscovery.Text.CaseFold
import GpuDiscovery.Text.Integer
import GpuDiscovery.Text.Numeral
import GpuDiscovery.Text.Search
import GpuDiscovery.Text.Split
import GpuDiscovery.Text.Truth
import GpuDiscovery.Text.Utf16
import GpuDiscovery.Windows.Buffer
import GpuDiscovery.Windows.Bytes
import GpuDiscovery.Windows.DeviceSet
import GpuDiscovery.Windows.DeviceTable
import GpuDiscovery.Windows.KernelAdapter
import GpuDiscovery.Windows.KernelTable
import GpuDiscovery.Windows.KeyTable
import GpuDiscovery.Windows.PropertyData
import GpuDiscovery.Windows.RegistryKey
import GpuDiscovery.Windows.Status
import GpuDiscovery.Proofs.Procedure.Sequence
import GpuDiscovery.Proofs.Procedure.Path
import GpuDiscovery.Proofs.Session.Pipeline
import GpuDiscovery.Proofs.Catalog.Enumeration
import GpuDiscovery.Proofs.Catalog.Listing
import GpuDiscovery.Proofs.Catalog.Capability
import GpuDiscovery.Proofs.Catalog.Pruning
import GpuDiscovery.Proofs.Catalog.History
import GpuDiscovery.Proofs.Session.History
import GpuDiscovery.Proofs.Session.Refresh
import GpuDiscovery.Proofs.Device.Correlation
import GpuDiscovery.Proofs.Device.Resolution
import GpuDiscovery.Proofs.Session.Devices
import GpuDiscovery.Proofs.Text.Utf16
import GpuDiscovery.Proofs.Foreign.Strings
import GpuDiscovery.Proofs.Session.Independence
import GpuDiscovery.Proofs.Procedure.Logging
import GpuDiscovery.Proofs.Session.Logging
import GpuDiscovery.Proofs.Foreign.Signal
import GpuDiscovery.Proofs.Platform.Course
import GpuDiscovery.Proofs.Session.Calls
import GpuDiscovery.Proofs.Platform.Account
import GpuDiscovery.Proofs.Session.Failure
import GpuDiscovery.Proofs.SortedMap
import GpuDiscovery.Proofs.Device.Prefilter
import GpuDiscovery.Proofs.Device.Merging
import GpuDiscovery.Proofs.Device.RuntimeFiles
import GpuDiscovery.Proofs.Procedure.Handle
import GpuDiscovery.Proofs.Windows.Handles
import GpuDiscovery.Proofs.Procedure.Evaluation
import GpuDiscovery.Proofs.Windows.DeviceTable
import GpuDiscovery.Proofs.Windows.Enumeration
import GpuDiscovery.Proofs.Platform.GrowingQuery
import GpuDiscovery.Proofs.Device.InPlace
import GpuDiscovery.Proofs.Device.Repetition
import GpuDiscovery.Proofs.Device.Faults
import GpuDiscovery.Proofs.Windows.RegistryValues
import GpuDiscovery.Proofs.Registry.MultiString
import GpuDiscovery.Proofs.Windows.PropertyData
import GpuDiscovery.Proofs.Procedure.Agreement
import GpuDiscovery.Proofs.Windows.EnumerationOrder
import GpuDiscovery.Proofs.Windows.AnnouncedSizes
import GpuDiscovery.Proofs.Text.CaseFold
import GpuDiscovery.Proofs.Text.Numeral
import GpuDiscovery.Proofs.Adapter.HardwareId
import GpuDiscovery.Proofs.Text.Integer
import GpuDiscovery.Proofs.Property.AdapterLuid
import GpuDiscovery.Proofs.Registry.Path
import GpuDiscovery.Proofs.Session.OpenedKeys
import GpuDiscovery.Proofs.Logger
import GpuDiscovery.Proofs.Property.KeyName
import GpuDiscovery.Proofs.Windows.KeyedProperties
import GpuDiscovery.Proofs.Device.Destinations
import GpuDiscovery.Proofs.Json.Reading
import GpuDiscovery.Proofs.Json.Device
import GpuDiscovery.Proofs.Probe.Output
