import Valdrics.PlanCeiling
import Valdrics.BudgetIsolation
import Valdrics.NoOversubscription
import Valdrics.GateReplay
import Valdrics.DryRun
import Valdrics.HeldReservation
import Valdrics.ActionRaces
import Valdrics.SettledOnce
import Valdrics.RemediationGrace
import Valdrics.CircuitBreaker
import Valdrics.GpuEscalation
import Valdrics.HardCap
import Valdrics.BatchIsolation
import Valdrics.JobAttempts
import Valdrics.LlmReservations
import Valdrics.LlmSpend
import Valdrics.LlmMetering
import Valdrics.FairUseSlots
import Valdrics.BudgetStatusCache
import Valdrics.WebhookReplay
import Valdrics.DunningCycle
import Valdrics.CheckoutInertness
import Valdrics.RateFreshness
import Valdrics.SessionGate
import Valdrics.FactorRuns
import Valdrics.TierCoherence
import Valdrics.GateMonotone
import Valdrics.GateAmounts
import Valdrics.HeadroomAgreement
import Valdrics.ReconciliationExceptions
import Valdrics.RoutingFreeze
import Valdrics.ScanConvergence
import Valdrics.SweepDeduplication
import Valdrics.RollingWindows
import Valdrics.UsageConservation
import Valdrics.CacheScan
import Valdrics.LlmBreaker
import Valdrics.SavingsBreaker
import Valdrics.PromptGuard
import Valdrics.PromptGuard
import Valdrics.AnalysisCache
import Valdrics.CostDeltas
import Valdrics.CostDeltas
import Valdrics.LedgerPages
import Valdrics.LedgerPages
import Valdrics.AllocationReports
import Valdrics.AllocationReports
import Valdrics.UpsertAgreement
import Valdrics.RetentionSummary
import Valdrics.SavingsStory
import Valdrics.AnomalySpend
import Valdrics.PublicPlans
import Valdrics.ScimPatchComposition
import Valdrics.KeyRotation
import Valdrics.ProxyTrust
import Valdrics.StrategyRefresh
import Valdrics.GrowthFunnel
import Valdrics.FocusExport
import Valdrics.SeatIdentity
import Valdrics.CarbonAdditivity
import Valdrics.VendorStreams
import Valdrics.ExportBundle
import Valdrics.ScanOrder
