import M8flowCore.ClaimSafety
import M8flowCore.CallerTransaction
import M8flowCore.History
import M8flowCore.SharedSession
import M8flowCore.Completions
import M8flowCore.ErrorRetry
import M8flowCore.ImportFailures
import M8flowCore.Reimports
import M8flowCore.ConcurrentGrants
import M8flowCore.Isolation
import M8flowCore.Bystanders
import M8flowCore.MirrorRuns
import M8flowCore.CallActivities
import M8flowCore.CommittedPasses
import M8flowCore.TimerCycles
import M8flowCore.Tenancy
import M8flowCore.Lanes
import M8flowCore.Reassignment
import M8flowCore.LateJoining
import M8flowCore.Roles
import M8flowCore.SchedulerKeys
import M8flowCore.OperationIds
import M8flowCore.OwnDefinitions
import M8flowCore.ItemFields
import M8flowCore.EndTimes
import M8flowCore.Inbox
import M8flowCore.ServiceCalls
