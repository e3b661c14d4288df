import DarkMed.Lib.Wire
import DarkMed.Socks.Proto
import DarkMed.Socks.Client
import DarkMed.Socks.Server
import DarkMed.Socks.ServerAccepts
import DarkMed.Socks.Handshake
import DarkMed.Socks.ClientAccepts
import DarkMed.Lib.Transition
import DarkMed.Lib.Kotlin
import DarkMed.Lib.Unicode
import DarkMed.Lib.Base64
import DarkMed.Lib.Python
import DarkMed.Lib.Ring
import DarkMed.Tunnel.RingBuffer
import DarkMed.Tunnel.SessionTcp
import DarkMed.Tunnel.Streams
import DarkMed.Tunnel.Closing
import DarkMed.Tunnel.Delivery
import DarkMed.Lib.Dependency
import DarkMed.Lib.FileSystem
import DarkMed.Lib.FileWrites
import DarkMed.Lib.Program
import DarkMed.ProtectedRoute
import DarkMed.Jni.Bridge
import DarkMed.Jni.Session
import DarkMed.Jni.Steps
import DarkMed.Jni.Ownership
import DarkMed.Jni.Protector
import DarkMed.Jni.Stop
import DarkMed.Jni.PathBuffer
import DarkMed.Vpn.Service
import DarkMed.Vpn.Steps
import DarkMed.Vpn.Consistency
import DarkMed.Vpn.Descriptor
import DarkMed.Network.Orchestrator
import DarkMed.Network.Answers
import DarkMed.Network.Failures
import DarkMed.Network.Binding
import DarkMed.Torrc.Grammar
import DarkMed.Torrc.Renderer
import DarkMed.Yaml.Reader
import DarkMed.Yaml.Scanner
import DarkMed.Yaml.Scalars
import DarkMed.Yaml.Lines
import DarkMed.Yaml.Blocks
import DarkMed.Yaml.Loader
import DarkMed.Tun2Socks.Renderer
import DarkMed.Tun2Socks.Config
import DarkMed.Tun2Socks.Agreement
import DarkMed.Profiles.Catalog
import DarkMed.Profiles.Store
import DarkMed.Profiles.Wipe
import DarkMed.Profiles.Saves
import DarkMed.Settings.ClearAllData
import DarkMed.Settings.DataWiper
import DarkMed.Settings.WipeVerification
import DarkMed.Settings.WipeExactness
import DarkMed.Network.ConfigWriters
import DarkMed.Tasks.Orchestrator
import DarkMed.Tasks.Dependencies
import DarkMed.Tasks.Completion
import DarkMed.Tasks.Retries
import DarkMed.Tasks.Threads
import DarkMed.Tasks.Representation
import DarkMed.Engineering.Contracts
import DarkMed.Engineering.Dependencies
import DarkMed.Engineering.Evidence
import DarkMed.Engineering.Replay
import DarkMed.Engineering.CostGuard
import DarkMed.Engineering.CostApproval
import DarkMed.Engineering.QaSummary
import DarkMed.Engineering.AppiumSuite
import DarkMed.Engineering.AppiumSession
import DarkMed.Lib.Framing
import DarkMed.Tunnel.SessionUdp
import DarkMed.Tunnel.Datagrams
import DarkMed.Tunnel.DatagramDelivery
