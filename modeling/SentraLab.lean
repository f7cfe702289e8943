import SentraLab.Basic
import SentraLab.Interception.RoutingTable
import SentraLab.Interception.RoutingExport
import SentraLab.Interception.Environment
import SentraLab.Recording.EventQueue
import SentraLab.Recording.EventQueueCalls
import SentraLab.Recording.Storage
import SentraLab.Recording.StorageTheorems
import SentraLab.Recording.Compressor
import SentraLab.Recording.MmapWriter
import SentraLab.Recording.Recorder
import SentraLab.Recording.RecorderTheorems
import SentraLab.Recording.Exporter
import SentraLab.Recording.Pipeline
import SentraLab.Runtime.ProcessManager
import SentraLab.Runtime.Sandbox
import SentraLab.Runtime.AgentPool
import SentraLab.Runtime.WorkStealing
import SentraLab.Runtime.WorkStealingTheorems
import SentraLab.Runtime.AgentRuntime
import SentraLab.Runtime.ResponseReading
