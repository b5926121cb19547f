import MoxaDrivers.Lib.Machine
import MoxaDrivers.Lib.Ring
import MoxaDrivers.Mxser.Port
import MoxaDrivers.Mxser.Board
import MoxaDrivers.Mxser.Transmit
import MoxaDrivers.Mxser.TransmitFifo
import MoxaDrivers.Lib.CellLog
import MoxaDrivers.Mxser.WriteFlushRace
import MoxaDrivers.Mxser.Modem
import MoxaDrivers.Mxser.ModemCount
import MoxaDrivers.Mxser.Speed
import MoxaDrivers.Mxser.CtsFollow
import MoxaDrivers.Mxser.SerialInfo
import MoxaDrivers.Mxser.TransmitStall
import MoxaDrivers.Mxser.RateSafety
import MoxaDrivers.Mxser.RateAgreement
import MoxaDrivers.Mxser.SoftwareFlow
import MoxaDrivers.Mxser.OpenClose
import MoxaDrivers.Mxser.OpenCount
import MoxaDrivers.Mxser.OpenDuringClose
import MoxaDrivers.Mxser.Probe
import MoxaDrivers.Mxser.Resources
import MoxaDrivers.Mxser.OpMode
import MoxaDrivers.Mxser.InterruptShadow
import MoxaDrivers.Mxser.ModemShadow
import MoxaDrivers.Mxser.Receive
import MoxaDrivers.Mxser.ByteCount
import MoxaDrivers.Mxser.SerialConfined
import MoxaDrivers.Lib.Sections
import MoxaDrivers.Mxser.SectionLock
import MoxaDrivers.Mxser.XmitRing
import MoxaDrivers.Mxupcie.Port
import MoxaDrivers.Mxupcie.Startup
import MoxaDrivers.Mxupcie.Transmit
import MoxaDrivers.Mxupcie.TransmitFifo
import MoxaDrivers.Mxupcie.Modem
import MoxaDrivers.Mxupcie.Speed
import MoxaDrivers.Mxupcie.TransmitStall
import MoxaDrivers.Mxupcie.RateHistory
import MoxaDrivers.Mxupcie.Board
import MoxaDrivers.Mxupcie.BoardSetup
import MoxaDrivers.Mxupcie.Interface
import MoxaDrivers.Mxupcie.Terminator
import MoxaDrivers.Mxupcie.SharedRegisters
import MoxaDrivers.Mxupcie.ModemCount
import MoxaDrivers.Mxupcie.RateSafety
import MoxaDrivers.Mxupcie.SerialInfo
import MoxaDrivers.Mxu11x0.WriteBuf
import MoxaDrivers.Mxu11x0.Port
import MoxaDrivers.Mxu11x0.WriteQueue
import MoxaDrivers.Mxu11x0.ReadUrb
import MoxaDrivers.Mxu11x0.ReadError
import MoxaDrivers.Mxu11x0.Interrupt
import MoxaDrivers.Mxu11x0.SetTermios
import MoxaDrivers.Mxu11x0.UartMode
import MoxaDrivers.Superio.Chip
import MoxaDrivers.Watchdog.Device
import MoxaDrivers.Watchdog.NoWayOut
import MoxaDrivers.Watchdog.Stopped
import MoxaDrivers.Watchdog.MagicClose
import MoxaDrivers.Dio.Board
import MoxaDrivers.Dio.Output
import MoxaDrivers.Dio.Input
import MoxaDrivers.Dio.LedPort
import MoxaDrivers.UartMode.AutoDirection
import MoxaDrivers.UartMode.V2201
import MoxaDrivers.UartMode.Moxa8250
import MoxaDrivers.Mxhtspd.Daemon
import MoxaDrivers.Mxhtspd.WarningLed
import MoxaDrivers.Mxhtspd.Button
import MoxaDrivers.Lib.Edges
import MoxaDrivers.Mxhtspd.Plug
import MoxaDrivers.MxDioControl.Din
import MoxaDrivers.MxDioControl.Registration
import MoxaDrivers.Lib.History
import MoxaDrivers.MxDioControl.Duration
import MoxaDrivers.Mxser.SpecialBaud
import MoxaDrivers.Mxupcie.SendTimeout
import MoxaDrivers.Mxser.ModemWait
import MoxaDrivers.Lib.Custody
import MoxaDrivers.Mxser.PageCustody
import MoxaDrivers.Mxupcie.PageCustody
import MoxaDrivers.Mxser.FlushFifo
import MoxaDrivers.Mxupcie.FlushFifo
import MoxaDrivers.Mxser.SerialRoundTrip
import MoxaDrivers.Mxupcie.SerialReads
import MoxaDrivers.Lib.Argmin
import MoxaDrivers.Lib.Cover
import MoxaDrivers.Mxupcie.LinearRate
import MoxaDrivers.Mxupcie.SoftwareBreak
import MoxaDrivers.Mxu11x0.SubmitFailure
import MoxaDrivers.Mxu11x0.ZeroRate
import MoxaDrivers.Mxu11x0.WaitUntilSent
import MoxaDrivers.Mxu11x0.MsrWait
import MoxaDrivers.Mxu11x0.DeviceRate
import MoxaDrivers.Lib.Transfer
import MoxaDrivers.Mxu11x0.Firmware
import MoxaDrivers.IrigB.Interrupt
import MoxaDrivers.IrigB.Poll
import MoxaDrivers.Hotswap.Disk
import MoxaDrivers.IrigB.Registers
import MoxaDrivers.Watchdog.Timeout
import MoxaDrivers.Mxhtspd.CheckDelay
import MoxaDrivers.Mxhtspd.ReadConf
import MoxaDrivers.Muestty.Pattern
import MoxaDrivers.Muestty.RecvMon
import MoxaDrivers.Mxser.InterruptDispatch
import MoxaDrivers.Can.Frame
import MoxaDrivers.Can.Slcan
import MoxaDrivers.Can.SlcanCodec
import MoxaDrivers.Can.SlcanLink
import MoxaDrivers.Lib.Codewords
import MoxaDrivers.Can.BitTiming
import MoxaDrivers.Can.BitTimingSearch
import MoxaDrivers.Mxu11x0.OpenClose
import MoxaDrivers.Lib.Intake
import MoxaDrivers.Mxser.ReceiveStream
import MoxaDrivers.Mxupcie.Receive
import MoxaDrivers.Mxupcie.Interrupt
import MoxaDrivers.Lib.Microwire
import MoxaDrivers.Mxser.IsaEeprom
import MoxaDrivers.Can.Sja1000
import MoxaDrivers.Can.Sja1000Codec
import MoxaDrivers.Can.Sja1000Timing
import MoxaDrivers.Can.Sja1000Isr
import MoxaDrivers.Can.Sja1000Node
