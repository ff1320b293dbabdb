import GnssSdr.Numerics
import GnssSdr.Acquisition.State
import GnssSdr.Acquisition.Search
import GnssSdr.Acquisition.GeneralWork
import GnssSdr.Acquisition.Episodes
import GnssSdr.Acquisition.Dwells
import GnssSdr.Acquisition.AuxiliaryPeaks
import GnssSdr.Acquisition.Correlation
import GnssSdr.Acquisition.DopplerGrid
import GnssSdr.Acquisition.PeaksMap
import GnssSdr.Acquisition.Channel
import GnssSdr.Acquisition.Protocol
import GnssSdr.Acquisition.Detector
import GnssSdr.Tracking.State
import GnssSdr.Tracking.LocalCode
import GnssSdr.Tracking.GeneralWork
import GnssSdr.Tracking.SecondaryLoop
import GnssSdr.Tracking.CodeNco
import GnssSdr.Tracking.PullIn
import GnssSdr.Tracking.Sessions
import GnssSdr.Tracking.LockDetector
import GnssSdr.Tracking.CodeTable
import GnssSdr.Tracking.LockWindows
import GnssSdr.Tracking.CarrierPhase
import GnssSdr.Tracking.Protocol
import GnssSdr.Handoff
