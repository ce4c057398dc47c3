import Qri.Dscache.Basic
import Qri.Dscache.Builder
import Qri.Dscache.Update
import Qri.Dscache.Read
import Qri.Dscache.Redelivery
import Qri.Dscache.Resolution
import Qri.Dscache.Commit
import Qri.Dscache.Init
import Qri.Dscache.Replay
import Qri.Startf.CallGraphCorrect
import Qri.Startf.Analyze
import Qri.Startf.ControlFlow
import Qri.P2p.Peers
import Qri.P2p.Connect
import Qri.Dsfs.Package
import Qri.Startf.Dataset
import Qri.Startf.DatasetObject
import Qri.Logsync.Http
import Qri.Lib.Automation
import Qri.Api.Fsi
