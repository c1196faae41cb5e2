import Socketplane.Lib.Kv.Store
import Socketplane.Lib.Kv.Prog
import Socketplane.Lib.Kv.Run
import Socketplane.Lib.Kv.Threads
import Socketplane.Lib.Kv.CasLoop
import Socketplane.Lib.Kv.CasSeq
import Socketplane.Lib.Kv.Hoare
import Socketplane.Lib.Bitmap
import Socketplane.Lib.ByteNum
import Socketplane.Lib.AlignedBlock
import Socketplane.Go.Net
import Socketplane.Go.NetText
import Socketplane.Go.Strings
import Socketplane.Ecc
import Socketplane.Daemon.Records
import Socketplane.Daemon.Bits
import Socketplane.Daemon.Ipam
import Socketplane.Daemon.Vlan
import Socketplane.Daemon.Allocators
import Socketplane.Daemon.IpamSession
import Socketplane.Daemon.Concurrent
import Socketplane.Daemon.Utils
import Socketplane.Daemon.Powerstrip
import Socketplane.Daemon.Network
import Socketplane.Daemon.Gateway
import Socketplane.Daemon.Bridge
import Socketplane.Daemon.VlanIsolation
import Socketplane.Daemon.Addresses
import Socketplane.Daemon.Api
import Socketplane.Daemon.Cluster
import Socketplane.Daemon.Lifecycle
