import FinanceTracker.System.ManualChoice
import FinanceTracker.System.CompensationReplies
import FinanceTracker.Analytics.EmbeddingConvergence
import FinanceTracker.Analytics.Visibility
import FinanceTracker.System.GoalProjection
import FinanceTracker.System.LegacyIdentity
import FinanceTracker.System.TaxonomyCopy
import FinanceTracker.Banking.ManualTrigger
import FinanceTracker.Budget.ClosableBudgets
import FinanceTracker.Budget.CloseRuns
import FinanceTracker.Messaging.OutboxOrder
import FinanceTracker.Goal.AcknowledgedClose
import FinanceTracker.Goal.AllocatedOnce
import FinanceTracker.Goal.GoalAmounts
import FinanceTracker.Goal.SurplusConservation
import FinanceTracker.Goal.DefaultDiscipline
import FinanceTracker.System.FetchedItems
import FinanceTracker.Transaction.ConcurrentChoice
import FinanceTracker.Transaction.ChosenCategory
import FinanceTracker.Messaging.NothingLost
import FinanceTracker.System.PrivateRetries
import FinanceTracker.Categorization.LastCorrection
import FinanceTracker.Categorization.RuleFreshness
import FinanceTracker.Categorization.FeedbackLoop
import FinanceTracker.Banking.OneConnection
import FinanceTracker.Notifications.NotifiedOnce
import FinanceTracker.Accounts.DefaultAccount
import FinanceTracker.Banking.AccountProjection
import FinanceTracker.Saga.StartedOnce
import FinanceTracker.Categorization.CategorizedOnce
import FinanceTracker.System.ReportedSync
import FinanceTracker.Transaction.DryRuns
import FinanceTracker.Saga.SilentRuns
import FinanceTracker.Transaction.ImportIndex
import FinanceTracker.Transaction.DenormalizedNames
import FinanceTracker.Transaction.DroppedDuplicates
import FinanceTracker.System.ScanAgreement
import FinanceTracker.Categorization.LongestMatch
import FinanceTracker.Categorization.SeedMatching
import FinanceTracker.Categorization.FallbackSubcategory
import FinanceTracker.Banking.BatchParsing
import FinanceTracker.Transaction.DanishAmounts
import FinanceTracker.Analytics.Breakdown
import FinanceTracker.Analytics.BackfillPaging
import FinanceTracker.Transaction.Reconciliation
import FinanceTracker.System.ChatSearch
import FinanceTracker.Chat.Pipeline
import FinanceTracker.Chat.ConcurrentStreams
import FinanceTracker.Messaging.RetryTotality
import FinanceTracker.Transaction.DuplicateCleanup
import FinanceTracker.Banking.ConnectionEvents
import FinanceTracker.System.ImportDeletions
