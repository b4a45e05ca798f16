import Sadip.Snowflake.Fields
import Sadip.Snowflake.Clock
import Sadip.FileWatcher
import Sadip.FileWatcherFactory
import Sadip.FileWatcher.Scan
import Sadip.FileSplit.Failures
import Sadip.FileTopic.Protocol
import Sadip.FileTopic.Routing
import Sadip.FileTopic.Writer
import Sadip.FileTopic.Delivery
import Sadip.FileTopic.Listing
import Sadip.FileTopic.MissingBlock
import Sadip.FileTopic.SendOneBlock
import Sadip.UserTcpServer.Buffer
import Sadip.NodeTopic.Sequence
import Sadip.NodeCmdTopic
import Sadip.NodeCmdTopic.Reply
import Sadip.NodeCmdWorker
import Sadip.NodeCmdWorker.Identity
import Sadip.CommandExecutor
import Sadip.SingleInstance
import Sadip.ProcessManager.Uniqueness
import Sadip.ProcessManager.Kill
import Sadip.ProcessManager.Tick
import Sadip.Commands.Status
import Sadip.Commands.Listing
import Sadip.CamQueues
import Sadip.ZenohBase.Interleaving
import Sadip.LogMonitor.Delivery
import Sadip.LogMonitorManager
import Sadip.LogMonitor.Publishing
import Sadip.LogMonitor.Stream
import Sadip.Rd
import Sadip.Rd.Reconnect
import Sadip.DataInsert
import Sadip.DataInsert.Forests
import Sadip.DataInsert.Intention.Stored
import Sadip.DataInsert.Roadside
import Sadip.DataInsert.SensorTime
import Sadip.DataInsert.WellFormed
import Sadip.UserTcpServer.ConvertCam
import Sadip.UserTcpServer.CheckCode
import Sadip.Split.Replacing
import Sadip.DataInsert.Texts
import Sadip.MonitorTopic
import Sadip.FileTopic.ReplyTexts
import Sadip.NodeCmdTopic.ReplyTexts
import Sadip.NodeCmdTopic.Stored
import Sadip.INIReader
import Sadip.NodeCmdWorker.SelfStart
import Sadip.NodeTopic.Restarts
import Sadip.Messages
