import CinderCsi.Go.Strings
import CinderCsi.OpenStack.Volumes
import CinderCsi.OpenStack.Attach
import CinderCsi.Os.Mount
import CinderCsi.Mount.Provider
import CinderCsi.Node.Server
import CinderCsi.Node.RoundTrip
import CinderCsi.Node.Lifecycle
import CinderCsi.Node.Identity
import CinderCsi.Mount.DiskFormat
import CinderCsi.Go.Wait
import CinderCsi.OpenStack.Wait
import CinderCsi.Device.ById
import CinderCsi.Device.Resolve
import CinderCsi.OpenStack.Lifecycle
import CinderCsi.Node.Safety
import CinderCsi.Test.CinderCreate
