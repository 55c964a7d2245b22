import AntennaMgmt.Tx.Safety
import AntennaMgmt.Cpri.Reassembly
import AntennaMgmt.Cpri.Identity
import AntennaMgmt.Version.Confirm
import AntennaMgmt.Version.Budget
import AntennaMgmt.Version.Activation
import AntennaMgmt.Version.Intact
import AntennaMgmt.Version.Fallback
import AntennaMgmt.Inject.Announce
import AntennaMgmt.Inject.Evidence
import AntennaMgmt.Inject.Link
import AntennaMgmt.Fpga.Reset
import AntennaMgmt.Tcp.Send
import AntennaMgmt.Tcp.Reconnect
import AntennaMgmt.Alarm.Converge
import AntennaMgmt.Alarm.Table
import AntennaMgmt.Cell.Effective
import AntennaMgmt.Cell.Setting
import AntennaMgmt.Cpri.Codec
import AntennaMgmt.Cell.Jobs
import AntennaMgmt.Query.Param
import AntennaMgmt.Telemetry.Queue
import AntennaMgmt.LogUpload.Gate
import AntennaMgmt.Rs422.Cuts
import AntennaMgmt.Rs422.Accept
import AntennaMgmt.Lib.Crc
import AntennaMgmt.Rs422.Crc
import AntennaMgmt.Inject.Notify
import AntennaMgmt.Alarm.Calls
import AntennaMgmt.Alarm.Periodic
import AntennaMgmt.Alarm.Sent
import AntennaMgmt.Heartbeat.Timeout
import AntennaMgmt.Rs422.Send
import AntennaMgmt.Rs422.Wedge
import AntennaMgmt.Alarm.Levels
import AntennaMgmt.Telemetry.Dump
import AntennaMgmt.Telemetry.File
import AntennaMgmt.Shell.Path
import AntennaMgmt.LogUpload.StorePath
import AntennaMgmt.Version.Fields
import AntennaMgmt.Version.Saved
import AntennaMgmt.Version.Checksum
import AntennaMgmt.Handlers.Walk
import AntennaMgmt.Fpga.FreqBand
import AntennaMgmt.Query.Cpu
import AntennaMgmt.Handlers.Echo
import AntennaMgmt.Cpri.Pool
import AntennaMgmt.Handlers.ConfigResult
import AntennaMgmt.Alarm.Query
import AntennaMgmt.Telemetry.Rotation
import AntennaMgmt.Logger.Rotate
import AntennaMgmt.Config.Load
import AntennaMgmt.Config.Grammar
import AntennaMgmt.Main.Pacing
import AntennaMgmt.Main.Outcome
import AntennaMgmt.Main.Calm
import AntennaMgmt.Watchdog.Wave
import AntennaMgmt.Tcp.Stopping
import AntennaMgmt.Telemetry.Pipeline
import AntennaMgmt.Handlers.Reports
import AntennaMgmt.LogUpload.Dialogue
