import DuckPaimon.Lib.Ternary
import DuckPaimon.Lib.SortedMap
import DuckPaimon.Lib.Outcome
import DuckPaimon.Lib.Proc
import DuckPaimon.Lib.Grouping
import DuckPaimon.Lib.PropertyCodec
import DuckPaimon.Lib.Getline
import DuckPaimon.Lib.Code
import DuckPaimon.Lib.Run
import DuckPaimon.Lib.Decimal
import DuckPaimon.Lib.Submap
import DuckPaimon.Lib.FoldMap
import DuckPaimon.Lib.Machine
import DuckPaimon.Lib.Ledger
import DuckPaimon.Lib.Custody
import DuckPaimon.Lib.Fetch
import DuckPaimon.Types
import DuckPaimon.Runtime
import DuckPaimon.BinaryFormat
import DuckPaimon.TablePath
import DuckPaimon.TypeUtils
import DuckPaimon.Literals
import DuckPaimon.Scan.Expression
import DuckPaimon.Scan.Predicate
import DuckPaimon.Scan.Convert
import DuckPaimon.Scan.Pushdown
import DuckPaimon.Scan.Sound
import DuckPaimon.Scan.Distributed
import DuckPaimon.Scan.Assign
import DuckPaimon.Scan.Estimates
import DuckPaimon.Catalog.Options
import DuckPaimon.Scan.Hops
import DuckPaimon.Scan.Plan
import DuckPaimon.Scan.Replan
import DuckPaimon.Scan.Binds
import DuckPaimon.Scan.Execute
import DuckPaimon.Scan.Emit
import DuckPaimon.Scan.Project
import DuckPaimon.Write.Identity
import DuckPaimon.Write.Transport
import DuckPaimon.Write.Contract
import DuckPaimon.Write.Decode
import DuckPaimon.Write.Accept
import DuckPaimon.Write.Attempts
import DuckPaimon.Write.Select
import DuckPaimon.Write.Target
import DuckPaimon.Write.Coordinator
import DuckPaimon.Write.Steps
import DuckPaimon.Write.Calls
import DuckPaimon.Write.Cleanup
import DuckPaimon.Write.Sink
import DuckPaimon.Write.Worker
import DuckPaimon.Write.Honest
import DuckPaimon.Write.Tally
import DuckPaimon.Write.Ownership
import DuckPaimon.Write.Accounting
import DuckPaimon.Write.Bind
import DuckPaimon.Write.Baseline
import DuckPaimon.Write.Process
import DuckPaimon.Write.Serial
import DuckPaimon.Write.Replaced
import DuckPaimon.Write.Native
import DuckPaimon.Write.Books
import DuckPaimon.Write.Replay
import DuckPaimon.Write.Success
import DuckPaimon.Catalog.Store
import DuckPaimon.Catalog.Sets
import DuckPaimon.Catalog.Listing
import DuckPaimon.Catalog.Runs
import DuckPaimon.Catalog.Lookup
import DuckPaimon.Scan.Partition
import DuckPaimon.Scan.BestEffort
import DuckPaimon.Scan.Typed
import DuckPaimon.Scan.Prune
import DuckPaimon.Scan.Answer
import DuckPaimon.Scan.Workers
import DuckPaimon.Scan.TimeTravel
import DuckPaimon.Scan.Secrets
import DuckPaimon.Scan.Query
import DuckPaimon.Scan.Snapshots
import DuckPaimon.Scan.Count
import DuckPaimon.Scan.Inserted
import DuckPaimon.Catalog.Planner
import DuckPaimon.Catalog.CreateTableAs
