import RtpSync.Gst.Basic
import RtpSync.Synchronizer.State
import RtpSync.Synchronizer.Process
import RtpSync.Synchronizer.Run
import RtpSync.Synchronizer.Frame
import RtpSync.Synchronizer.Steps
import RtpSync.Properties.Saturation
import RtpSync.Properties.Configuration
import RtpSync.Properties.Anchors
import RtpSync.Properties.Tracker
import RtpSync.Properties.Reordering
import RtpSync.Properties.HeaderChecks
import RtpSync.Properties.SortedMode
import RtpSync.Properties.Refresh
import RtpSync.Properties.Ordering
import RtpSync.Srtp.Connection
import RtpSync.Properties.SrtpKeys
import RtpSync.Properties.SortedFeed
