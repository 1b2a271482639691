import Kvmulate.Lib.Run
import Kvmulate.Lib.HostFile
import Kvmulate.Lib.ByteMemory
import Kvmulate.Lib.Latch
import Kvmulate.Ata.DataPort
import Kvmulate.Ata.DataPhase
import Kvmulate.Ata.Commit
import Kvmulate.Lib.BlockDevice
import Kvmulate.Ata.Programming
import Kvmulate.Ata.Transfers
import Kvmulate.Ata.Abandoned
import Kvmulate.Ata.Geometry
import Kvmulate.Ata.SoftReset
import Kvmulate.Ata.Registers
import Kvmulate.Ata.TaskFile
import Kvmulate.Ata.ReadBack
import Kvmulate.Ata.StatusCopies
import Kvmulate.Ata.HostFailures
import Kvmulate.Ata.Capacity
import Kvmulate.Lib.Decode
import Kvmulate.Mmio
import Kvmulate.Vga.Context
import Kvmulate.Vga.Ram
import Kvmulate.Lib.Indexed
import Kvmulate.Vga.Registers
import Kvmulate.Vga.Indices
import Kvmulate.Keyboard.Controller
import Kvmulate.Keyboard.Steps
import Kvmulate.Keyboard.Delivery
import Kvmulate.Keyboard.Flags
import Kvmulate.Keyboard.Routing
import Kvmulate.Dma
import Kvmulate.Floppy.Controller
import Kvmulate.Floppy.Machine
import Kvmulate.Floppy.Simulation
import Kvmulate.Floppy.Handshake
import Kvmulate.Lib.Region
import Kvmulate.Floppy.Bounds
import Kvmulate.Floppy.ReadData
import Kvmulate.Dma.Bounds
import Kvmulate.System.Memory
import Kvmulate.System.MemoryMap
import Kvmulate.System.LowPointers
import Kvmulate.System.GuestMemory
import Kvmulate.System.BiosImage
import Kvmulate.Qemu.Paravirt
import Kvmulate.Qemu.E820
import Kvmulate.Qemu.Items
import Kvmulate.Cmos
import Kvmulate.I8237
import Kvmulate.Dma.FlipFlop
import Kvmulate.Lib.Slots
import Kvmulate.Pci.Bus
import Kvmulate.Pci.Registration
import Kvmulate.Pci.Routing
import Kvmulate.Pci.Functions
import Kvmulate.Pci.Identity
import Kvmulate.Lib.FirstMatch
import Kvmulate.Lib.Paint
import Kvmulate.Io
import Kvmulate.Io.Ordered
import Kvmulate.Io.EntryPoints
import Kvmulate.System.KvmRun
import Kvmulate.System.StringIo
import Kvmulate.System.RepeatedIo
import Kvmulate.Pci.Handler
import Kvmulate.Pci.ReadBack
import Kvmulate.Pci.Widths
import Kvmulate.Pci.ConfigAddress
import Kvmulate.Vga.Rom
import Kvmulate.Vga.RomTracks
import Kvmulate.Vga.RomWindow
import Kvmulate.Vga.RomImage
import Kvmulate.Vga.Viewer
import Kvmulate.Vga.Stores
import Kvmulate.Vga.Screen
import Kvmulate.Vga.Widths
import Kvmulate.Vga.RenderBounds
import Kvmulate.Lib.Interleave
import Kvmulate.Vga.Palette
import Kvmulate.Vga.IndexedRegisters
import Kvmulate.Cmos.Clock
import Kvmulate.Cmos.Registers
import Kvmulate.Cmos.OwnNumber
import Kvmulate.Cmos.ExtendedMemory
import Kvmulate.Io.Parts
import Kvmulate.Devices.Handlers
import Kvmulate.Devices.Registered
import Kvmulate.Devices.DeviceControl
import Kvmulate.Devices.CmosPorts
import Kvmulate.Devices.CmosRoundTrip
import Kvmulate.Lib.Component
import Kvmulate.Lib.Expansion
import Kvmulate.Devices.Components
import Kvmulate.Devices.Alone
import Kvmulate.System.Vcpu
import Kvmulate.Ata.Snapshot
import Kvmulate.Ata.Atomic
import Kvmulate.Devices.DiskReads
import Kvmulate.Devices.DiskWrites
import Kvmulate.Lib.Decomposition
import Kvmulate.Devices.Tables
import Kvmulate.Devices.Product
import Kvmulate.Devices.DiskRoundTrip
import Kvmulate.Devices.InterruptLines
import Kvmulate.Devices.BlockDisk
import Kvmulate.Lib.Purge
import Kvmulate.Devices.Transfers
import Kvmulate.Devices.FloppyReads
import Kvmulate.Lib.Mailbox
import Kvmulate.Vga.Keys
import Kvmulate.Keyboard.Typing
import Kvmulate.Devices.Typing
import Kvmulate.Lib.Faults
import Kvmulate.Io.Faults
import Kvmulate.Floppy.Faults
import Kvmulate.Pci.Faults
import Kvmulate.Vga.Faults
import Kvmulate.Devices.PortFaults
import Kvmulate.Devices.Overruns
import Kvmulate.Lib.Script
import Kvmulate.System.Create
