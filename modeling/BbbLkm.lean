import BbbLkm.Machine.Run
import BbbLkm.Machine.Projection
import BbbLkm.Machine.Ladder
import BbbLkm.Machine.Ledger
import BbbLkm.Machine.Account
import BbbLkm.Machine.Managed
import BbbLkm.Memory.Words
import BbbLkm.Memory.Flat
import BbbLkm.Memory.Heap
import BbbLkm.Cursor.Device
import BbbLkm.Cursor.Files
import BbbLkm.Kernel.Errno
import BbbLkm.Kernel.UserCopy
import BbbLkm.Kernel.Slab
import BbbLkm.Kernel.DriverCore
import BbbLkm.Kernel.DeviceTree
import BbbLkm.Kernel.Kstrtox
import BbbLkm.Kernel.Decimal
import BbbLkm.Kernel.Vsprintf
import BbbLkm.Kernel.Sysfs
import BbbLkm.Kernel.Gpiolib
import BbbLkm.Kernel.CharDevices
import BbbLkm.Kernel.PlatformBus
import BbbLkm.Kernel.DriverModule
import BbbLkm.Kernel.ManagedDriver
import BbbLkm.PseudoN.FileOps
import BbbLkm.PseudoN.Transfer
import BbbLkm.PseudoN.Vfs
import BbbLkm.PseudoN.Bounds
import BbbLkm.PseudoN.Pread
import BbbLkm.PseudoN.LastWriter
import BbbLkm.PseudoN.Permissions
import BbbLkm.PseudoN.Init
import BbbLkm.PseudoN.Seek
import BbbLkm.PseudoN.Failures
import BbbLkm.PseudoN.EndOfDevice
import BbbLkm.PseudoN.Chunks
import BbbLkm.PseudoN.Isolation
import BbbLkm.PseudoN.Refinement
import BbbLkm.PseudoN.Leftovers
import BbbLkm.Pseudo.FileOps
import BbbLkm.Pseudo.Bounds
import BbbLkm.Pseudo.Twin
import BbbLkm.Pseudo.Init
import BbbLkm.Client.ReadLoop
import BbbLkm.Client.Session
import BbbLkm.PseudoDt.Probe
import BbbLkm.PseudoDt.Outcome
import BbbLkm.PseudoDt.Bookkeeping
import BbbLkm.PseudoDt.Region
import BbbLkm.PseudoDt.OpenFiles
import BbbLkm.PseudoDt.Lifetime
import BbbLkm.PseudoDt.Memory
import BbbLkm.PseudoDtSysfs.Probe
import BbbLkm.PseudoDtSysfs.Undo
import BbbLkm.PseudoDtSysfs.Numbers
import BbbLkm.PseudoDtSysfs.Region
import BbbLkm.PseudoDtSysfs.OpenFiles
import BbbLkm.PseudoDtSysfs.MaxSize
import BbbLkm.PseudoDtSysfs.Ownership
import BbbLkm.PseudoDtSysfs.Capacity
import BbbLkm.PseudoDtSysfs.IdEntry
import BbbLkm.PseudoDtSysfs.SerialNum
import BbbLkm.PseudoDtSysfs.SizeFile
import BbbLkm.PseudoDtSysfs.Lifetime
import BbbLkm.PseudoDtSysfs.Leak
import BbbLkm.PseudoPlatform.Probe
import BbbLkm.PseudoPlatform.Bookkeeping
import BbbLkm.PseudoPlatform.Lifetime
import BbbLkm.PseudoPlatform.Numbers
import BbbLkm.PseudoPlatform.Setup
import BbbLkm.PseudoPlatform.Binding
import BbbLkm.PseudoPlatform.DeviceSetup
import BbbLkm.GpioSysfs.Probe
import BbbLkm.GpioSysfs.Loop
import BbbLkm.GpioSysfs.Remove
import BbbLkm.GpioSysfs.Instances
import BbbLkm.GpioSysfs.Created
import BbbLkm.GpioSysfs.Failure
import BbbLkm.GpioSysfs.Labels
import BbbLkm.GpioSysfs.Names
import BbbLkm.GpioSysfs.Attributes
import BbbLkm.GpioSysfs.Slots
import BbbLkm.GpioSysfs.Lifetime
import BbbLkm.Drivers.Memory
