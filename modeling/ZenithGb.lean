import ZenithGb.Lib.Run
import ZenithGb.Lib.Store
import ZenithGb.Lib.Counter
import ZenithGb.Lib.Stateful
import ZenithGb.Lib.Channel
import ZenithGb.Lib.Sampling
import ZenithGb.Panic
import ZenithGb.Timer
import ZenithGb.Timer.Overflow
import ZenithGb.Timer.Rate
import ZenithGb.Mbc
import ZenithGb.Mbc.Totality
import ZenithGb.Mbc.Banking
import ZenithGb.Mbc.Mbc1Banking
import ZenithGb.Mbc.Mbc2Banking
import ZenithGb.Mbc.Mbc5Banking
import ZenithGb.Mbc.Mbc3Clock
import ZenithGb.Mbc.Mbc3Latch
import ZenithGb.Mbc.Mbc3Banking
import ZenithGb.Mbc.Build
import ZenithGb.Mbc.SaveFile
import ZenithGb.Mbc.Battery
import ZenithGb.Serial.Serial
import ZenithGb.Serial.PrinterPanics
import ZenithGb.Serial.PrinterImage
import ZenithGb.Serial.Framing
import ZenithGb.Serial.PrintJob
import ZenithGb.Serial.Transfer
import ZenithGb.Serial.Link
import ZenithGb.Apu.Apu
import ZenithGb.Apu.Bounded
import ZenithGb.Apu.Trigger
import ZenithGb.Apu.Countdown
import ZenithGb.Apu.Noise
import ZenithGb.Apu.Tone
import ZenithGb.Apu.PowerOff
import ZenithGb.Apu.Output
import ZenithGb.Ppu.Clock
import ZenithGb.Ppu.DrawSafe
import ZenithGb.Ppu.Mode3
import ZenithGb.Ppu.Machine
import ZenithGb.Ppu.Frame
import ZenithGb.Ppu.Lcd
import ZenithGb.Ppu.Stat
import ZenithGb.Ppu.Scanline
import ZenithGb.Ppu.Objects
import ZenithGb.Ppu.Settings
import ZenithGb.Ppu.Picture
import ZenithGb.Soc.Bus
import ZenithGb.Soc.Machine
import ZenithGb.Soc.Reads
import ZenithGb.Soc.Memory
import ZenithGb.Soc.Wram
import ZenithGb.Soc.OamDma
import ZenithGb.Soc.Hdma
import ZenithGb.Soc.HblankDma
import ZenithGb.Soc.HdmaCancel
import ZenithGb.Soc.Requests
import ZenithGb.Soc.Host
import ZenithGb.Soc.Crashes
import ZenithGb.Soc.Components
import ZenithGb.Soc.Raster
import ZenithGb.Soc.Pending
import ZenithGb.Cpu.Handlers
import ZenithGb.Cpu.Cycles
import ZenithGb.Cpu.Timing
import ZenithGb.Cpu.Interrupts
import ZenithGb.Cpu.Stack
import ZenithGb.Cpu.Architecture
import ZenithGb.Cpu.AddressSafe
import ZenithGb.Cpu.Decimal
import ZenithGb.Cpu.Lengths
import ZenithGb.Cpu.Drives
import ZenithGb.Cpu.Crashes
import ZenithGb.Gameboy
import ZenithGb.Host.Session
import ZenithGb.Host.SessionSafe
import ZenithGb.Host.Idle
import ZenithGb.Host.SessionLive
import ZenithGb.Host.Audio
