import Runact.ActorStarvation
import Runact.AfterShutdown
import Runact.Backoff
import Runact.ComputeAnswers
import Runact.ComputeFailures
import Runact.Draining
import Runact.GracefulDrain
import Runact.HostedSupervisor
import Runact.Introspection
import Runact.LostPool
import Runact.MailboxHistory
import Runact.MailboxWakeups
import Runact.PublicTimer
import Runact.ReductionBudget
import Runact.Rejections
import Runact.ReplyChannels
import Runact.RequestAnswers
import Runact.ResourceRegistry
import Runact.RuntimeShutdown
import Runact.SupervisorAgreement
import Runact.SupervisorIsolation
import Runact.TimerFires
import Runact.TimerOrder
import Runact.TimerPass
import Runact.TimerPoisoning
