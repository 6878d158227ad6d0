import PrefectQiskit.PaidJobs
import PrefectQiskit.AnalyticsObserver
import PrefectQiskit.ExecutionCache
import PrefectQiskit.IbmStatusPolicy
import PrefectQiskit.AerConcurrency
import PrefectQiskit.VendorContract
import PrefectQiskit.IbmMetrics
import PrefectQiskit.JobPayload
import PrefectQiskit.ExecutionSpans
import PrefectQiskit.AerCredentials
import PrefectQiskit.CircuitHeap
import PrefectQiskit.ObjectHeap
import PrefectQiskit.PayloadHeap
import PrefectQiskit.ExactKey
import PrefectQiskit.PrimitiveJob
import PrefectQiskit.AerOutcome
import PrefectQiskit.IbmRefusals
