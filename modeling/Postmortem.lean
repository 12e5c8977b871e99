import Postmortem.Main
import Postmortem.Proofs.Address.Spellings
import Postmortem.Proofs.Analysis.Completion
import Postmortem.Proofs.Analysis.CrashIsolation
import Postmortem.Proofs.Analysis.Retries
import Postmortem.Proofs.Analysis.Surfacing
import Postmortem.Proofs.Config.Integers
import Postmortem.Proofs.Deployment.Indicators
import Postmortem.Proofs.Deployment.MoreThreads
import Postmortem.Proofs.Deployment.Score
import Postmortem.Proofs.Deployment.ThreadOrder
import Postmortem.Proofs.Exception.ChainWalk
import Postmortem.Proofs.Exception.Inspections
import Postmortem.Proofs.Exception.Introspection
import Postmortem.Proofs.Exception.ReadBack
import Postmortem.Proofs.Heap.Balance
import Postmortem.Proofs.Heap.Mirror
import Postmortem.Proofs.Heap.ReadBack
import Postmortem.Proofs.Heap.Regrouping
import Postmortem.Proofs.Heap.SignedRange
import Postmortem.Proofs.Heap.Strictness
import Postmortem.Proofs.Heap.Unchanged
import Postmortem.Proofs.Lock.InvolvedThreads
import Postmortem.Proofs.Member.Evidence
import Postmortem.Proofs.Member.Instantiations
import Postmortem.Proofs.Member.Messages
import Postmortem.Proofs.Member.Naming
import Postmortem.Proofs.Member.Searches
import Postmortem.Proofs.Member.Verdict
import Postmortem.Proofs.Object.Limits
import Postmortem.Proofs.Session.Availability
import Postmortem.Proofs.Session.Replay
import Postmortem.Proofs.Snapshot.Agreement
import Postmortem.Proofs.Snapshot.Mirror
import Postmortem.Proofs.Snapshot.Unchanged
import Postmortem.Proofs.Stack.Attribution
import Postmortem.Proofs.Stack.DetailLines
import Postmortem.Proofs.Stack.EmissionOrder
import Postmortem.Proofs.Stack.Estimates
import Postmortem.Proofs.Stack.MergeAccount
import Postmortem.Proofs.Stack.MergeOrder
import Postmortem.Proofs.Stack.Independence
import Postmortem.Proofs.Stack.Mirror
import Postmortem.Proofs.Stack.OwnThread
import Postmortem.Proofs.Stack.Placement
import Postmortem.Proofs.Stack.Rearrangement
import Postmortem.Proofs.Stack.SourceLocations
import Postmortem.Proofs.Stack.Transitions
import Postmortem.Proofs.Text.Cuts
import Postmortem.Proofs.Text.Numerals
import Postmortem.Proofs.Thread.HexText
import Postmortem.Proofs.Thread.Printing
import Postmortem.Proofs.Thread.ReadBack
import Postmortem.Proofs.Thread.Readings
import Postmortem.Proofs.Thread.Spellings
