import MtpRs.Cli.Collisions
import MtpRs.Cli.Copies
import MtpRs.Cli.Cp
import MtpRs.Cli.Destinations
import MtpRs.Cli.Download
import MtpRs.Cli.Error
import MtpRs.Cli.Get
import MtpRs.Cli.GetPlan
import MtpRs.Cli.Lookup
import MtpRs.Cli.Mv
import MtpRs.Cli.Obliging
import MtpRs.Cli.Path
import MtpRs.Cli.Selection
import MtpRs.Cli.Staging
import MtpRs.Cli.Store
import MtpRs.Lib.Ascii
import MtpRs.Lib.Association
import MtpRs.Lib.Attempts
import MtpRs.Lib.Carriage
import MtpRs.Lib.Confined
import MtpRs.Lib.Contents
import MtpRs.Lib.Cursors
import MtpRs.Lib.Disk
import MtpRs.Lib.DiskSpace
import MtpRs.Lib.DiskTree
import MtpRs.Lib.Effects
import MtpRs.Lib.Feed
import MtpRs.Lib.FileCalls
import MtpRs.Lib.FileSteps
import MtpRs.Lib.Frontier
import MtpRs.Lib.LastWrites
import MtpRs.Lib.Numerals
import MtpRs.Lib.Packets
import MtpRs.Lib.Panics
import MtpRs.Lib.Paths
import MtpRs.Lib.Places
import MtpRs.Lib.Readers
import MtpRs.Lib.Registers
import MtpRs.Lib.Runs
import MtpRs.Mtp.Capabilities
import MtpRs.Mtp.Consecutive
import MtpRs.Mtp.Copy
import MtpRs.Mtp.Coverage
import MtpRs.Mtp.DatasetParsing
import MtpRs.Mtp.Datasets
import MtpRs.Mtp.DownloadRange
import MtpRs.Mtp.DownloadRun
import MtpRs.Mtp.DownloadStep
import MtpRs.Mtp.Error
import MtpRs.Mtp.FileDownload
import MtpRs.Mtp.Folding
import MtpRs.Mtp.HandleListing
import MtpRs.Mtp.Hotplug
import MtpRs.Mtp.Names
import MtpRs.Mtp.Neutral
import MtpRs.Mtp.ObjectBytes
import MtpRs.Mtp.ObjectInfoBytes
import MtpRs.Mtp.ObjectListing
import MtpRs.Mtp.ObjectStore
import MtpRs.Mtp.Objects
import MtpRs.Mtp.PartialReads
import MtpRs.Mtp.PropChildren
import MtpRs.Mtp.PropList
import MtpRs.Mtp.PropListAgreement
import MtpRs.Mtp.PropVerdict
import MtpRs.Mtp.PropertyBytes
import MtpRs.Mtp.PropertyGrammar
import MtpRs.Mtp.RecursiveListing
import MtpRs.Mtp.Resume
import MtpRs.Mtp.RootListing
import MtpRs.Mtp.Storage
import MtpRs.Mtp.StrandedRun
import MtpRs.Mtp.Stranding
import MtpRs.Mtp.Upload
import MtpRs.Mtp.Usb
import MtpRs.Mtp.UsbDevice
import MtpRs.Mtp.WholeFile
import MtpRs.Mtp.WindowedDownload
import MtpRs.Mtp.Windows
import MtpRs.Ptp.Accepted
import MtpRs.Ptp.ArrayBytes
import MtpRs.Ptp.Arrays
import MtpRs.Ptp.Calendar
import MtpRs.Ptp.CivilDays
import MtpRs.Ptp.Codes
import MtpRs.Ptp.Container
import MtpRs.Ptp.ContainerParsing
import MtpRs.Ptp.DateParsing
import MtpRs.Ptp.DateStrings
import MtpRs.Ptp.DateTime
import MtpRs.Ptp.Error
import MtpRs.Ptp.FieldParsing
import MtpRs.Ptp.Fields
import MtpRs.Ptp.Pack
import MtpRs.Ptp.Session.Agreement
import MtpRs.Ptp.Session.Custody
import MtpRs.Ptp.Session.GiveBack
import MtpRs.Ptp.Session.LargeObject
import MtpRs.Ptp.Session.Matching
import MtpRs.Ptp.Session.Open
import MtpRs.Ptp.Session.OpenPairing
import MtpRs.Ptp.Session.Outstanding
import MtpRs.Ptp.Session.Pieces
import MtpRs.Ptp.Session.Provenance
import MtpRs.Ptp.Session.Receive
import MtpRs.Ptp.Session.ReceiveStep
import MtpRs.Ptp.Session.Recovery
import MtpRs.Ptp.Session.Reset
import MtpRs.Ptp.Session.SendData
import MtpRs.Ptp.Session.StreamCut
import MtpRs.Ptp.Session.StreamLoop
import MtpRs.Ptp.Session.StreamRule
import MtpRs.Ptp.Session.StreamStep
import MtpRs.Ptp.Session.StreamTransfer
import MtpRs.Ptp.Session.Streaming
import MtpRs.Ptp.Session.System
import MtpRs.Ptp.Session.TransactionIds
import MtpRs.Ptp.Session.Transfer
import MtpRs.Ptp.Strings
import MtpRs.Ptp.UnixTime
import MtpRs.Transport.BulkOut
import MtpRs.Transport.CancelDrain
import MtpRs.Transport.Framing
import MtpRs.Transport.LengthField
import MtpRs.Transport.Nusb
import MtpRs.VirtualDevice.Additions
import MtpRs.VirtualDevice.Aims
import MtpRs.VirtualDevice.Blocking
import MtpRs.VirtualDevice.Builders
import MtpRs.VirtualDevice.Carried
import MtpRs.VirtualDevice.Confinement
import MtpRs.VirtualDevice.Containers
import MtpRs.VirtualDevice.Conversation
import MtpRs.VirtualDevice.Descriptions
import MtpRs.VirtualDevice.DeviceElements
import MtpRs.VirtualDevice.DeviceStrings
import MtpRs.VirtualDevice.Discovery
import MtpRs.VirtualDevice.Exchange
import MtpRs.VirtualDevice.FolderListings
import MtpRs.VirtualDevice.Guarded
import MtpRs.VirtualDevice.GuardedOperations
import MtpRs.VirtualDevice.Handlers
import MtpRs.VirtualDevice.Handles
import MtpRs.VirtualDevice.IntoItself
import MtpRs.VirtualDevice.Metadata
import MtpRs.VirtualDevice.Numbered
import MtpRs.VirtualDevice.Outcomes
import MtpRs.VirtualDevice.PropList
import MtpRs.VirtualDevice.ReadOnly
import MtpRs.VirtualDevice.Realignment
import MtpRs.VirtualDevice.Registry
import MtpRs.VirtualDevice.Removals
import MtpRs.VirtualDevice.Rescan
import MtpRs.VirtualDevice.RescanOutcome
import MtpRs.VirtualDevice.Responsive
import MtpRs.VirtualDevice.Scans
import MtpRs.VirtualDevice.SelfDescription
import MtpRs.VirtualDevice.State
import MtpRs.VirtualDevice.Storages
import MtpRs.VirtualDevice.StoredTimes
import MtpRs.VirtualDevice.Transfers
import MtpRs.VirtualDevice.Transport
import MtpRs.VirtualDevice.Tree
import MtpRs.VirtualDevice.TwoDescriptions
import MtpRs.VirtualDevice.Uploads
import MtpRs.VirtualDevice.Watcher
import MtpRs.VirtualDevice.WholeListing
import MtpRs.VirtualDevice.Writes
import MtpRs.Wpd.Actor
import MtpRs.Wpd.Com
import MtpRs.Wpd.Copy
import MtpRs.Wpd.KeptStream
import MtpRs.Wpd.Leftover
import MtpRs.Wpd.Listings
import MtpRs.Wpd.Props
import MtpRs.Wpd.Stream
import MtpRs.Wpd.Upload
import MtpRs.Wpd.UploadOutcome
