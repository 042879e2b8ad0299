import KeyLog.Delivery
import KeyLog.Index.Workbench
import KeyLog.Main
import KeyLog.Record.Lemmas
import KeyLog.Session.Run
import KeyLog.Proofs.Checksum
import KeyLog.Proofs.Record.Decode
import KeyLog.Proofs.Log.Basic
import KeyLog.Proofs.Record.Altered
import KeyLog.Proofs.Log.Announced
import KeyLog.Proofs.Source.Ending
import KeyLog.Proofs.Index
import KeyLog.Proofs.Log.Index
import KeyLog.Proofs.Log.Replay
import KeyLog.Proofs.Log.Canonical
import KeyLog.Proofs.Volume.Leads
import KeyLog.Proofs.Volume.Alike
import KeyLog.Proofs.LogFile
import KeyLog.Proofs.Compaction.Run
import KeyLog.Proofs.Store
import KeyLog.Proofs.Log.Altered
import KeyLog.Proofs.Session.Sole
import KeyLog.Proofs.Session.Refinement
import KeyLog.Proofs.Session.Canonical
import KeyLog.Proofs.Session.Reclaimed
import KeyLog.Proofs.Store.Guise
import KeyLog.Proofs.Session.Asides
import KeyLog.Proofs.Store.Miss
import KeyLog.Proofs.Session.CommandLines
import KeyLog.Proofs.Foreign
import KeyLog.Proofs.Session.Calls
import KeyLog.Proofs.Session.Deposits
import KeyLog.Proofs.Session.Lasting
import KeyLog.Proofs.Store.Alike
import KeyLog.Proofs.Session.Alike
import KeyLog.Proofs.Session.Standing
import KeyLog.Proofs.Session.FailedSet
import KeyLog.Proofs.Session.Lookup
import KeyLog.Proofs.Volume.Draft
import KeyLog.Proofs.Compaction.Copied
import KeyLog.Proofs.Session.Compaction
import KeyLog.Proofs.Store.Twins
import KeyLog.Proofs.Session.Twins
import KeyLog.Proofs.Compaction.Stopped
import KeyLog.Proofs.Session.FailedCompaction
import KeyLog.Proofs.Session.Stopped
import KeyLog.Proofs.Session.Listed
import KeyLog.Proofs.LogFile.Append
import KeyLog.Proofs.Session.Shared
import KeyLog.Proofs.Session.Acknowledged
import KeyLog.Proofs.Session.FailedAppend
import KeyLog.Proofs.Volume.Paired
import KeyLog.Proofs.Volume.Mirrored
import KeyLog.Proofs.Volume.Twins
import KeyLog.Proofs.Volume.Housed
import KeyLog.Proofs.Session.Tenants
import KeyLog.Proofs.LogFile.Recount
import KeyLog.Proofs.Source.Scan
import KeyLog.Proofs.Source.Failing
import KeyLog.Proofs.Log.Faults
import KeyLog.Proofs.Session.Verified
import KeyLog.Proofs.Session.Cursors
import KeyLog.Proofs.Index.Insertions
import KeyLog.Proofs.Session.Iteration
