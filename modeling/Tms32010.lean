import Tms32010.Board.BioGenerator
import Tms32010.Board.LocalRam
import Tms32010.Board.LocalReset
import Tms32010.Board.Mailboxes
import Tms32010.Board.SoundBus
import Tms32010.Board.SoundMister
import Tms32010.Board.SoundPorts
import Tms32010.Laws.AdapterReads
import Tms32010.Laws.BoardPace
import Tms32010.Laws.BoardTrace
import Tms32010.Laws.CallStack
import Tms32010.Laws.CallbackHandshake
import Tms32010.Laws.CaptureAcceptance
import Tms32010.Laws.Convolution
import Tms32010.Laws.CoresAgree
import Tms32010.Laws.DatabaseDecode
import Tms32010.Laws.Division
import Tms32010.Laws.Download
import Tms32010.Laws.HostCycles
import Tms32010.Laws.Interrupts
import Tms32010.Laws.Latency
import Tms32010.Laws.LocalMemory
import Tms32010.Laws.MailboxExchange
import Tms32010.Laws.MainReset
import Tms32010.Laws.MisterAssertions
import Tms32010.Laws.OperandCoherence
import Tms32010.Laws.Overflow
import Tms32010.Laws.Parking
import Tms32010.Laws.PhaseTrace
import Tms32010.Laws.PipelineRuns
import Tms32010.Laws.ProgramStore
import Tms32010.Laws.ResetStretch
import Tms32010.Laws.Restart
import Tms32010.Laws.RoundTrip
import Tms32010.Laws.SliceAssertions
import Tms32010.Laws.SoundAddress
import Tms32010.Laws.TwoPass
import Tms32010.Lib.Clocked
import Tms32010.Lib.StoreHistory
import Tms32010.Model.Run
import Tms32010.Rtl.Completion
import Tms32010.Rtl.NativeBus
import Tms32010.Rtl.Owner
