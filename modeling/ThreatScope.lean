import ThreatScope.Soar.StepFailures
import ThreatScope.Soar.TerminalStates
import ThreatScope.Soar.WaitStates
import ThreatScope.Soar.ApprovalRules
import ThreatScope.Soar.RollbackStates
import ThreatScope.Soar.Ledger
import ThreatScope.AccessControl.Admission
import ThreatScope.AccessControl.AuditChain
import ThreatScope.AccessControl.AdministratorRole
import ThreatScope.Vulnerabilities.Confluence
import ThreatScope.Vulnerabilities.Credit
import ThreatScope.Vulnerabilities.Resolution
import ThreatScope.Integrations.HiddenSecrets
import ThreatScope.Integrations.SecretRotation
import ThreatScope.Integrations.Egress
import ThreatScope.Integrations.FanOut
import ThreatScope.Integrations.DeliveryLife
import ThreatScope.Integrations.RateWindows
import ThreatScope.Operations.BackupRetention
import ThreatScope.SocMonitor.Coverage
import ThreatScope.SocMonitor.SecretFields
import ThreatScope.UnifiedCorrelation.RollingWindows
import ThreatScope.ThreatIntelligence.Observations
import ThreatScope.Analytics.Reviews
import ThreatScope.Analytics.Lineages
import ThreatScope.Analytics.JobEnds
import ThreatScope.Operations.RestoreSafety
import ThreatScope.Operations.BackupAtomicity
import ThreatScope.Operations.ManagedRestores
import ThreatScope.Analytics.FutureLeakage
import ThreatScope.Soar.DryRuns
import ThreatScope.Soar.TriggerIsolation
import ThreatScope.ApiSecurity.ImportAtomicity
import ThreatScope.Scanner.CookieSecrets
import ThreatScope.Scanner.ScoreOrder
import ThreatScope.Scanner.CrawlSearch
import ThreatScope.ApiSecurity.Duplicates
import ThreatScope.Operations.RetentionPolicies
import ThreatScope.Vulnerabilities.Scores
import ThreatScope.Detection.Conditions
import ThreatScope.Detection.Executions
import ThreatScope.SocMonitor.Blocklist
import ThreatScope.Analytics.AnomalyBands
import ThreatScope.Analytics.QualityGates
import ThreatScope.Analytics.Contributions
