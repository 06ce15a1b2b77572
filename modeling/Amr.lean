import Amr.Gcq.Attach
import Amr.Smbus.Assign
import Amr.Mctp.Identity
import Amr.Pldm.GetPdr
import Amr.Apc.Metadata
import Amr.Bim.Health
import Amr.Asc.Statistics
import Amr.Smbus.BlockIo
import Amr.Muxed.Isolation
import Amr.Log.Delivery
import Amr.Api.Discovery
import Amr.Eeprom.Decode
import Amr.Locks.Balance
import Amr.Host.LifetimeSafety
import Amr.Host.Apps
import Amr.Host.Supervision
import Amr.Host.ProbeBalance
import Amr.Host.SessionBalance
import Amr.Amc.WindowSafety
import Amr.Gcq.SlotCount
import Amr.Log.Dump
import Amr.Gcq.FalseEmpty
import Amr.Amc.Payload
import Amr.Smbus.EventLoop
import Amr.Smbus.BlockRead
import Amr.Apc.Generator
import Amr.Api.SysfsRoundTrip
import Amr.Apc.Verification
import Amr.Asdm.Power
import Amr.Mctp.Fragmentation
import Amr.Smbus.Arbitration
import Amr.Asdm.Responses
import Amr.Apc.Ranges
import Amr.Host.SdrRefresh
import Amr.Evl.Delivery
import Amr.Dal.Tree
import Amr.Storage.Windows
import Amr.Ospi.PollTransfer
import Amr.Api.SensorCache
import Amr.Ospi.Update
import Amr.Eeprom.RawWrite
import Amr.Gcq.Interface
import Amr.Host.CapabilityWalks
import Amr.Host.Strconcat
import Amr.Pldm.CrcRight
import Amr.Host.BarAccess
import Amr.Api.Md5Right
import Amr.Apc.LivePdiRight
import Amr.App.SensorsRight
import Amr.Smbus.EventBuffer
import Amr.Smbus.CircularLog
import Amr.Api.ParseBdf
import Amr.Api.ConvertNum
import Amr.I2c.Isl68221
import Amr.Delivery
