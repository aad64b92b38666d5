import PinePhonePkg.Card.Storage
import PinePhonePkg.Dxe.HotRemoval
import PinePhonePkg.Partition.GptRoundTrip
import PinePhonePkg.Partition.MbrChainLayout
import PinePhonePkg.Logical.CardsApart
import PinePhonePkg.Card.BootImage
import PinePhonePkg.Card.BusMode
import PinePhonePkg.Dma.Dispatch
import PinePhonePkg.Power.Interference
import PinePhonePkg.Power.SupplyRoundTrip
import PinePhonePkg.Power.BusErrors
import PinePhonePkg.Power.InterruptMask
import PinePhonePkg.Power.PendingEvents
import PinePhonePkg.Card.GroupRounding
import PinePhonePkg.Boot.SystemMemory
import PinePhonePkg.Display.BltContainment
import PinePhonePkg.Host.CommandOutcome
import PinePhonePkg.Start.StaleMemory
import PinePhonePkg.Start.Identified
import PinePhonePkg.Check.Crc32
import PinePhonePkg.Check.Checksum
import PinePhonePkg.Host.DescriptorChain
import PinePhonePkg.Dxe.FileSystem
import PinePhonePkg.Flash.Erase
import PinePhonePkg.Partition.Info
import PinePhonePkg.Mmc.HwPartition
import PinePhonePkg.Host.TuningTables
import PinePhonePkg.Dma.AlignedPages
import PinePhonePkg.Host.BestDelay
import PinePhonePkg.Host.RetryLoop
import PinePhonePkg.Pins.FromScript
import PinePhonePkg.Host.CardClock
import PinePhonePkg.Boot.VirtualClock
import PinePhonePkg.Boot.MemoryPeim
import PinePhonePkg.Boot.CorePll
import PinePhonePkg.Pci.Emulation
import PinePhonePkg.Display.BltRoundTrip
import PinePhonePkg.Power.RsbPaths
import PinePhonePkg.Twi.TransferRight
import PinePhonePkg.Pins.OnePinRun
import PinePhonePkg.Clk.Display
import PinePhonePkg.Usb.Interrupt
import PinePhonePkg.Usb.PageList
