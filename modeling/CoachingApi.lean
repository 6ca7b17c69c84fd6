import CoachingApi.Library.DocumentStore
import CoachingApi.Library.Apportionment
import CoachingApi.Library.Collections
import CoachingApi.Library.Rounding
import CoachingApi.Library.Records
import CoachingApi.Library.Upserts
import CoachingApi.Library.Runs
import CoachingApi.Library.Text
import CoachingApi.Library.CredentialRegistry
import CoachingApi.Shared.Enums
import CoachingApi.Common.TenantContext
import CoachingApi.Common.TenantPlugin
import CoachingApi.Common.TenantOperations
import CoachingApi.Common.TenantScoping
import CoachingApi.Common.TenantIsolation
import CoachingApi.Common.TenantOwnership
import CoachingApi.Common.TenantModel
import CoachingApi.Schemas.Institute
import CoachingApi.Schemas.Fees
import CoachingApi.Schemas.StoredDocuments
import CoachingApi.Common.PlatformModels
import CoachingApi.Auth.TokenService
import CoachingApi.Auth.TenantAuthService
import CoachingApi.Auth.JwtStrategies
import CoachingApi.Auth.RealmSeparation
import CoachingApi.Auth.PlatformAuthService
import CoachingApi.Tenants.TenantsService
import CoachingApi.Tenants.Provisioning
import CoachingApi.Tenants.FlagRaces
import CoachingApi.Support.SupportService
import CoachingApi.Support.Impersonation
import CoachingApi.Auth.Admission
import CoachingApi.Auth.CredentialCalls
import CoachingApi.Auth.CredentialStore
import CoachingApi.Auth.CredentialRefinement
import CoachingApi.Auth.CredentialHistory
import CoachingApi.Notifications.NotificationsService
import CoachingApi.Fees.FeeCalc
import CoachingApi.Fees.RazorpayGateway
import CoachingApi.Fees.FeesService
import CoachingApi.Fees.InstallmentSplit
import CoachingApi.Fees.CapturedPayment
import CoachingApi.Fees.Webhooks
import CoachingApi.Fees.CaptureTransitions
import CoachingApi.Fees.CaptureRaces
import CoachingApi.Fees.CreditRaces
import CoachingApi.Fees.SerialCapture
import CoachingApi.Fees.CaptureFailures
import CoachingApi.Fees.CreditedInvoices
import CoachingApi.Fees.FeeOperations
import CoachingApi.Fees.InvoiceGeneration
import CoachingApi.Fees.PlanCoverage
import CoachingApi.Fees.GenerationRaces
import CoachingApi.Fees.Tally
import CoachingApi.Fees.Ledger
import CoachingApi.Fees.LedgerAgreement
import CoachingApi.Fees.Routing
import CoachingApi.Fees.Regeneration
import CoachingApi.Fees.FullPayments
import CoachingApi.Fees.InvoiceStatuses
import CoachingApi.Fees.StatusFilters
import CoachingApi.Support.BypassTrail
import CoachingApi.Auth.InviteRaces
import CoachingApi.Auth.PasswordPolicy
import CoachingApi.Attendance.MarkRetries
import CoachingApi.Attendance.ClassDays
import CoachingApi.Reports.FeesSummary
import CoachingApi.Reports.RecordedHistory
import CoachingApi.Notifications.PushOutcomes
import CoachingApi.Notifications.Addressees
import CoachingApi.Academics.OwnSubmissions
import CoachingApi.Academics.GradingRecords
import CoachingApi.Library.CompositeKeys
import CoachingApi.Materials.StorageService
import CoachingApi.Materials.UploadKeys
import CoachingApi.Library.BulkUpdates
import CoachingApi.Batches.BatchesService
import CoachingApi.Batches.Enrolment
import CoachingApi.Billing.BillingService
import CoachingApi.Billing.PlansService
import CoachingApi.Billing.RecurringRevenue
import CoachingApi.Common.Queries
import CoachingApi.Schemas.Outreach
import CoachingApi.Schemas.Platform
import CoachingApi.Students.StudentsService
import CoachingApi.Leads.LeadsService
import CoachingApi.Materials.MaterialsService
import CoachingApi.Library.Partitions
import CoachingApi.Library.Lifelines
import CoachingApi.Common.TenantLifelines
import CoachingApi.Common.TenantSeparation
import CoachingApi.Surfaces.TenantApi
import CoachingApi.Surfaces.WholeLedger
import CoachingApi.Surfaces.PlatformApi
import CoachingApi.Surfaces.InstituteParts
import CoachingApi.Surfaces.RecordsApart
import CoachingApi.Surfaces.FeesApart
import CoachingApi.Surfaces.ClassesApart
import CoachingApi.Surfaces.Separation
import CoachingApi.Surfaces.RouteRoles
import CoachingApi.Surfaces.MemberRecords
import CoachingApi.Surfaces.References
import CoachingApi.Surfaces.ReportRuns
import CoachingApi.Surfaces.LeadRuns
import CoachingApi.Surfaces.RosterRuns
import CoachingApi.Surfaces.PlatformWrites
import CoachingApi.Surfaces.AuditReplay
import CoachingApi.Surfaces.WholeApi
import CoachingApi.Surfaces.TokenProvenance
import CoachingApi.Surfaces.Warrants
import CoachingApi.Surfaces.BillsAndCredentials
