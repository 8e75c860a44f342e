import DeviceRail.EventStore.Paging
import DeviceRail.EventStore.Reachability
import DeviceRail.EventStore.Shutdown
import DeviceRail.Protocol.Handshake
import DeviceRail.Protocol.Snapshot
import DeviceRail.Bundle.Admission
import DeviceRail.Bundle.Versions
import DeviceRail.Registry.Identity
import DeviceRail.Media.Recovery
import DeviceRail.EvidenceFs.Recovery
import DeviceRail.Router.LeaseRuns
import DeviceRail.Router.RouteRuns
import DeviceRail.Bundle.RoundTrip
import DeviceRail.Router.Driver
import DeviceRail.Recorder.Lock
import DeviceRail.RemoteAuth.Challenge
import DeviceRail.Daemon.Connection
import DeviceRail.Plugin.Transport
import DeviceRail.Yaml.Plan
