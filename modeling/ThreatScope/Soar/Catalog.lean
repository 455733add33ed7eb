/-!
# The action catalog

`soar/catalog.py`: the server-owned actions, and what each declares about its
safety, its permission and its approval. Only a key of the catalog reaches the
dispatcher.
-/

set_option autoImplicit false

namespace ThreatScope.Soar

/-- `safety_classification`. -/
inductive SafetyClass where
  | readOnly
  | harmlessLocal
  | controlledLocal
  | sensitiveLocal
  | simulationOnly
deriving DecidableEq

/-- `EXECUTION_MODES`. -/
inductive ExecutionMode where
  | dryRun
  | simulation
  | liveLocal
deriving DecidableEq

/-- `approval_requirement`. -/
inductive ApprovalRequirement where
  | administrator
  | explicit
  | policy
deriving DecidableEq

/-- The keys of `ACTION_CATALOG`, in its order. -/
inductive ActionKey where
  | loadSocAlertContext
  | loadIncidentCaseContext
  | loadDetectionMatchContext
  | loadThreatIntelligenceMatchContext
  | loadVulnerabilityContext
  | loadPhishingAnalysisContext
  | loadDocumentAnalysisContext
  | loadUserSecurityContext
  | loadSessionMetadata
  | loadAssetContext
  | loadAnomalyContext
  | calculateWorkflowRiskSummary
  | checkExistingCaseLink
  | checkExistingRemediationTask
  | checkExistingNotification
  | checkCurrentOwnership
  | createIncidentCase
  | reuseIncidentCase
  | assignCaseOwner
  | changeCaseSeverity
  | addCaseComment
  | addCaseEvidence
  | addCaseTag
  | linkSocAlertToCase
  | linkDetectionMatchToCase
  | linkThreatIntelligenceMatchToCase
  | linkVulnerabilityToCase
  | linkPhishingAnalysisToCase
  | linkDocumentAnalysisToCase
  | createInvestigationChecklistItem
  | createCaseFollowUpTask
  | transitionCaseLifecycle
  | markSocAlertReviewing
  | addSocAlertNote
  | createAlertReviewTask
  | createDetectionSuppressionProposal
  | createAnalystReviewTask
  | addIndicatorToWatchlist
  | createIocReviewTask
  | assignVulnerability
  | addVulnerabilityComment
  | createRemediationPlanDraft
  | createRemediationTask
  | requestVulnerabilityVerification
  | createRiskAcceptanceProposal
  | createInternalNotification
  | assignInternalTask
  | addSupportedRecordTag
  | captureEvidenceSnapshot
  | createAnomalyCaseProposal
  | requestAnomalyReview
  | generateAnalyticsReport
  | addAnomalyTag
  | revokeSelectedSession
  | revokeOtherUserSessions
  | temporarilyDisableUser
  | reenableUser
  | simulateBlockIp
  | simulateBlockDomain
  | simulateBlockUrl
  | simulateQuarantineEndpoint
  | simulateIsolateHost
  | simulateDisableExternalAccount
  | simulateRevokeExternalToken
  | simulateRemoveMaliciousEmail
  | simulateUpdateFirewallRule
  | simulateUpdateWafRule
  | simulateUpdateDnsBlocklist
  | simulateUpdateProxyBlocklist
  | simulateUpdateEdrPolicy
  | simulateTerminateMaliciousProcess
  | simulateQuarantineMaliciousFile
  | restoreCaseOwner
  | restoreCaseSeverity
  | restoreCaseStatus
  | removeCaseTag
  | cancelCaseTask
  | restoreVulnerabilityOwner
  | cancelRemediationTask
  | restorePlaybookEnabledState
  | queueConnectorNotification
  | queueExternalTicketCreate
  | queueExternalTicketUpdate
  | queueSiemEventPublish
  | queueStixExport
  | testConnectorHealth
  | createConnectorDeliveryReviewTask
deriving DecidableEq

/-- `ActionDefinition`, the fields the engine and the routes read. -/
structure ActionDefinition where
  actionKey : ActionKey
  displayName : String
  category : String
  safetyClassification : SafetyClass
  allowedExecutionModes : List ExecutionMode
  requiredPermission : String
  approvalRequirement : ApprovalRequirement
  administratorApprovalRequired : Bool
  requesterApproverSeparationRequired : Bool
  maximumRetries : Nat
  retryableErrorCodes : List String
  supportsIdempotency : Bool
  compensatingActionKey : Option ActionKey
  simulationOnly : Bool
  enabledByDefault : Bool
  automaticLocalEligible : Bool

/-- `_definition`. -/
def actionDefinition (key : ActionKey) (name category : String) (safety : SafetyClass)
    (permission : String) (compensation : Option ActionKey) (auto : Bool) : ActionDefinition :=
  let sensitive := safety == .sensitiveLocal
  let simulated := safety == .simulationOnly
  let readOnly := safety == .readOnly
  { actionKey := key
    displayName := name
    category := category
    safetyClassification := safety
    allowedExecutionModes :=
      if simulated then [.dryRun, .simulation] else [.dryRun, .simulation, .liveLocal]
    requiredPermission := permission
    approvalRequirement :=
      if sensitive then .administrator else if simulated then .explicit else .policy
    administratorApprovalRequired := sensitive
    requesterApproverSeparationRequired := sensitive
    maximumRetries := if sensitive || simulated then 0 else 3
    retryableErrorCodes := if sensitive || simulated then [] else ["SOAR_EXECUTION_CONFLICT"]
    supportsIdempotency := true
    compensatingActionKey := compensation
    simulationOnly := simulated
    enabledByDefault := true
    automaticLocalEligible := (readOnly || auto) && !sensitive && !simulated }

/-- An entry of `_READ_ONLY`. -/
def readOnlyAction (key : ActionKey) (name category permission : String) : ActionDefinition :=
  actionDefinition key name category .readOnly permission none false

/-- An entry of `_SIMULATION`. -/
def simulatedAction (key : ActionKey) (name : String) : ActionDefinition :=
  actionDefinition key name "simulated_containment" .simulationOnly "soar:execute" none false

/-- An entry of `_COMPENSATIONS`. -/
def compensationAction (key : ActionKey) (name category permission : String) : ActionDefinition :=
  actionDefinition key name category .controlledLocal permission none false

/-- An entry of `_CONNECTOR_ACTIONS`: the flags are replaced after the definition
is built, the safety class is not. -/
def connectorAction (key : ActionKey) (name : String) : ActionDefinition :=
  { actionDefinition key name "security_integrations" .controlledLocal "integrations:execute"
      none false with
    approvalRequirement := .administrator
    administratorApprovalRequired := true
    requesterApproverSeparationRequired := true
    automaticLocalEligible := false }

namespace ActionKey

/-- The entry of a key in `ACTION_CATALOG`. -/
def definition : ActionKey → ActionDefinition
  | .loadSocAlertContext =>
    readOnlyAction .loadSocAlertContext "Load SOC alert context" "soc" "soc:read"
  | .loadIncidentCaseContext =>
    readOnlyAction .loadIncidentCaseContext "Load incident-case context" "cases" "cases:read"
  | .loadDetectionMatchContext =>
    readOnlyAction .loadDetectionMatchContext "Load detection-match context" "detections"
      "detections:view"
  | .loadThreatIntelligenceMatchContext =>
    readOnlyAction .loadThreatIntelligenceMatchContext
      "Load threat-intelligence-match context" "threat_intelligence" "threat_intel:view"
  | .loadVulnerabilityContext =>
    readOnlyAction .loadVulnerabilityContext "Load vulnerability context" "vulnerability"
      "vulnerabilities:view"
  | .loadPhishingAnalysisContext =>
    readOnlyAction .loadPhishingAnalysisContext "Load phishing-analysis context" "phishing"
      "phishing:read"
  | .loadDocumentAnalysisContext =>
    readOnlyAction .loadDocumentAnalysisContext "Load document-analysis context" "documents"
      "document:read"
  | .loadUserSecurityContext =>
    readOnlyAction .loadUserSecurityContext "Load user security context" "identity"
      "soar:sensitive_actions"
  | .loadSessionMetadata =>
    readOnlyAction .loadSessionMetadata "Load session metadata" "identity"
      "soar:sensitive_actions"
  | .loadAssetContext =>
    readOnlyAction .loadAssetContext "Load asset context" "assets" "assets:view"
  | .loadAnomalyContext =>
    readOnlyAction .loadAnomalyContext "Load security anomaly context" "analytics"
      "analytics:view"
  | .calculateWorkflowRiskSummary =>
    readOnlyAction .calculateWorkflowRiskSummary "Calculate current workflow risk summary"
      "workflow" "soar:view"
  | .checkExistingCaseLink =>
    readOnlyAction .checkExistingCaseLink "Check existing case link" "cases" "cases:read"
  | .checkExistingRemediationTask =>
    readOnlyAction .checkExistingRemediationTask "Check existing remediation task"
      "vulnerability" "vulnerabilities:view"
  | .checkExistingNotification =>
    readOnlyAction .checkExistingNotification "Check existing notification" "workflow"
      "notifications:read"
  | .checkCurrentOwnership =>
    readOnlyAction .checkCurrentOwnership "Check current ownership" "workflow" "soar:view"
  | .createIncidentCase =>
    actionDefinition .createIncidentCase "Create incident case" "cases" .controlledLocal
      "cases:create" none false
  | .reuseIncidentCase =>
    actionDefinition .reuseIncidentCase "Reuse incident case by idempotency key" "cases"
      .readOnly "cases:read" none false
  | .assignCaseOwner =>
    actionDefinition .assignCaseOwner "Assign case owner" "cases" .controlledLocal
      "cases:manage" (some .restoreCaseOwner) false
  | .changeCaseSeverity =>
    actionDefinition .changeCaseSeverity "Change case severity" "cases" .controlledLocal
      "cases:manage" (some .restoreCaseSeverity) false
  | .addCaseComment =>
    actionDefinition .addCaseComment "Add case comment" "cases" .harmlessLocal "cases:manage"
      none true
  | .addCaseEvidence =>
    actionDefinition .addCaseEvidence "Add case evidence" "cases" .harmlessLocal
      "cases:manage" none true
  | .addCaseTag =>
    actionDefinition .addCaseTag "Add case tag" "cases" .harmlessLocal "cases:manage" (some
      .removeCaseTag) true
  | .linkSocAlertToCase =>
    actionDefinition .linkSocAlertToCase "Link SOC alert" "cases" .harmlessLocal
      "cases:manage" none true
  | .linkDetectionMatchToCase =>
    actionDefinition .linkDetectionMatchToCase "Link detection match" "detections"
      .harmlessLocal "detections:review" none true
  | .linkThreatIntelligenceMatchToCase =>
    actionDefinition .linkThreatIntelligenceMatchToCase "Link threat-intelligence match"
      "threat_intelligence" .harmlessLocal "threat_intel:manage" none true
  | .linkVulnerabilityToCase =>
    actionDefinition .linkVulnerabilityToCase "Link vulnerability" "vulnerability"
      .harmlessLocal "vulnerabilities:triage" none true
  | .linkPhishingAnalysisToCase =>
    actionDefinition .linkPhishingAnalysisToCase "Link phishing analysis" "phishing"
      .harmlessLocal "phishing:manage_disposition" none true
  | .linkDocumentAnalysisToCase =>
    actionDefinition .linkDocumentAnalysisToCase "Link document analysis" "documents"
      .harmlessLocal "document:analyze" none true
  | .createInvestigationChecklistItem =>
    actionDefinition .createInvestigationChecklistItem "Create investigation checklist item"
      "cases" .harmlessLocal "cases:manage" (some .cancelCaseTask) true
  | .createCaseFollowUpTask =>
    actionDefinition .createCaseFollowUpTask "Create case follow-up task" "cases"
      .harmlessLocal "cases:manage" (some .cancelCaseTask) true
  | .transitionCaseLifecycle =>
    actionDefinition .transitionCaseLifecycle "Perform valid case lifecycle transition"
      "cases" .controlledLocal "cases:manage" (some .restoreCaseStatus) false
  | .markSocAlertReviewing =>
    actionDefinition .markSocAlertReviewing "Mark alert as reviewing" "soc" .controlledLocal
      "soc:manage_alerts" none false
  | .addSocAlertNote =>
    actionDefinition .addSocAlertNote "Add analyst note to alert" "soc" .harmlessLocal
      "soc:manage_alerts" none true
  | .createAlertReviewTask =>
    actionDefinition .createAlertReviewTask "Create alert-review task" "soc" .harmlessLocal
      "soc:manage_alerts" (some .cancelCaseTask) true
  | .createDetectionSuppressionProposal =>
    actionDefinition .createDetectionSuppressionProposal
      "Create detection-suppression proposal" "detections" .harmlessLocal "detections:review"
      none true
  | .createAnalystReviewTask =>
    actionDefinition .createAnalystReviewTask "Create analyst-review task" "workflow"
      .harmlessLocal "soar:review" (some .cancelCaseTask) true
  | .addIndicatorToWatchlist =>
    actionDefinition .addIndicatorToWatchlist "Add indicator to existing watchlist"
      "threat_intelligence" .controlledLocal "threat_intel:manage" none false
  | .createIocReviewTask =>
    actionDefinition .createIocReviewTask "Create IOC analyst-review task"
      "threat_intelligence" .harmlessLocal "threat_intel:manage" (some .cancelCaseTask) true
  | .assignVulnerability =>
    actionDefinition .assignVulnerability "Assign vulnerability" "vulnerability"
      .controlledLocal "vulnerabilities:triage" (some .restoreVulnerabilityOwner) false
  | .addVulnerabilityComment =>
    actionDefinition .addVulnerabilityComment "Add vulnerability comment" "vulnerability"
      .harmlessLocal "vulnerabilities:triage" none true
  | .createRemediationPlanDraft =>
    actionDefinition .createRemediationPlanDraft "Create remediation-plan draft"
      "vulnerability" .controlledLocal "vulnerabilities:remediate" none false
  | .createRemediationTask =>
    actionDefinition .createRemediationTask "Create remediation task" "vulnerability"
      .controlledLocal "vulnerabilities:remediate" (some .cancelRemediationTask) false
  | .requestVulnerabilityVerification =>
    actionDefinition .requestVulnerabilityVerification "Request vulnerability verification"
      "vulnerability" .controlledLocal "vulnerabilities:verify" none false
  | .createRiskAcceptanceProposal =>
    actionDefinition .createRiskAcceptanceProposal "Create risk-acceptance proposal"
      "vulnerability" .controlledLocal "vulnerabilities:accept_risk" none false
  | .createInternalNotification =>
    actionDefinition .createInternalNotification "Create internal notification" "workflow"
      .harmlessLocal "soar:execute" none true
  | .assignInternalTask =>
    actionDefinition .assignInternalTask "Assign internal task" "workflow" .controlledLocal
      "soar:review" none false
  | .addSupportedRecordTag =>
    actionDefinition .addSupportedRecordTag "Add tag to supported record" "workflow"
      .harmlessLocal "soar:execute" none true
  | .captureEvidenceSnapshot =>
    actionDefinition .captureEvidenceSnapshot "Capture audit-safe evidence snapshot"
      "workflow" .harmlessLocal "soar:execute" none true
  | .createAnomalyCaseProposal =>
    actionDefinition .createAnomalyCaseProposal "Create anomaly case proposal" "analytics"
      .harmlessLocal "analytics:review" none true
  | .requestAnomalyReview =>
    actionDefinition .requestAnomalyReview "Request anomaly analyst review" "analytics"
      .harmlessLocal "analytics:review" none true
  | .generateAnalyticsReport =>
    actionDefinition .generateAnalyticsReport "Generate bounded analytics report" "analytics"
      .controlledLocal "analytics:export" none false
  | .addAnomalyTag =>
    actionDefinition .addAnomalyTag "Add approved anomaly tag" "analytics" .harmlessLocal
      "analytics:review" none true
  | .revokeSelectedSession =>
    actionDefinition .revokeSelectedSession "Revoke selected ThreatScope session" "identity"
      .sensitiveLocal "soar:sensitive_actions" none false
  | .revokeOtherUserSessions =>
    actionDefinition .revokeOtherUserSessions "Revoke all other ThreatScope sessions"
      "identity" .sensitiveLocal "soar:sensitive_actions" none false
  | .temporarilyDisableUser =>
    actionDefinition .temporarilyDisableUser "Temporarily disable ThreatScope user" "identity"
      .sensitiveLocal "soar:sensitive_actions" (some .reenableUser) false
  | .reenableUser =>
    actionDefinition .reenableUser "Re-enable ThreatScope user" "identity" .sensitiveLocal
      "soar:sensitive_actions" none false
  | .simulateBlockIp => simulatedAction .simulateBlockIp "Simulate block IP"
  | .simulateBlockDomain => simulatedAction .simulateBlockDomain "Simulate block domain"
  | .simulateBlockUrl => simulatedAction .simulateBlockUrl "Simulate block URL"
  | .simulateQuarantineEndpoint =>
    simulatedAction .simulateQuarantineEndpoint "Simulate quarantine endpoint"
  | .simulateIsolateHost => simulatedAction .simulateIsolateHost "Simulate isolate host"
  | .simulateDisableExternalAccount =>
    simulatedAction .simulateDisableExternalAccount "Simulate disable external account"
  | .simulateRevokeExternalToken =>
    simulatedAction .simulateRevokeExternalToken "Simulate revoke external token"
  | .simulateRemoveMaliciousEmail =>
    simulatedAction .simulateRemoveMaliciousEmail "Simulate remove malicious email"
  | .simulateUpdateFirewallRule =>
    simulatedAction .simulateUpdateFirewallRule "Simulate update firewall rule"
  | .simulateUpdateWafRule => simulatedAction .simulateUpdateWafRule "Simulate update WAF rule"
  | .simulateUpdateDnsBlocklist =>
    simulatedAction .simulateUpdateDnsBlocklist "Simulate update DNS blocklist"
  | .simulateUpdateProxyBlocklist =>
    simulatedAction .simulateUpdateProxyBlocklist "Simulate update proxy blocklist"
  | .simulateUpdateEdrPolicy =>
    simulatedAction .simulateUpdateEdrPolicy "Simulate update EDR policy"
  | .simulateTerminateMaliciousProcess =>
    simulatedAction .simulateTerminateMaliciousProcess "Simulate terminate malicious process"
  | .simulateQuarantineMaliciousFile =>
    simulatedAction .simulateQuarantineMaliciousFile "Simulate quarantine malicious file"
  | .restoreCaseOwner =>
    compensationAction .restoreCaseOwner "Restore previous case owner" "cases" "cases:manage"
  | .restoreCaseSeverity =>
    compensationAction .restoreCaseSeverity "Restore previous case severity" "cases"
      "cases:manage"
  | .restoreCaseStatus =>
    compensationAction .restoreCaseStatus "Restore previous valid case status" "cases"
      "cases:manage"
  | .removeCaseTag =>
    compensationAction .removeCaseTag "Remove execution-added case tag" "cases" "cases:manage"
  | .cancelCaseTask =>
    compensationAction .cancelCaseTask "Cancel execution-created case task" "cases" "cases:manage"
  | .restoreVulnerabilityOwner =>
    compensationAction .restoreVulnerabilityOwner "Restore previous vulnerability owner"
      "vulnerability" "vulnerabilities:triage"
  | .cancelRemediationTask =>
    compensationAction .cancelRemediationTask "Cancel execution-created remediation task"
      "vulnerability" "vulnerabilities:remediate"
  | .restorePlaybookEnabledState =>
    compensationAction .restorePlaybookEnabledState "Restore playbook enabled state" "soar"
      "soar:manage"
  | .queueConnectorNotification =>
    connectorAction .queueConnectorNotification "Queue connector notification"
  | .queueExternalTicketCreate =>
    connectorAction .queueExternalTicketCreate "Queue external ticket creation"
  | .queueExternalTicketUpdate =>
    connectorAction .queueExternalTicketUpdate "Queue external ticket update"
  | .queueSiemEventPublish => connectorAction .queueSiemEventPublish "Queue SIEM event publishing"
  | .queueStixExport => connectorAction .queueStixExport "Queue STIX export"
  | .testConnectorHealth => connectorAction .testConnectorHealth "Queue connector health test"
  | .createConnectorDeliveryReviewTask =>
    connectorAction .createConnectorDeliveryReviewTask "Create connector delivery review task"

/-- `ACTION_CATALOG.get(text)`. -/
def ofText? : String → Option ActionKey
  | "load_soc_alert_context" => some .loadSocAlertContext
  | "load_incident_case_context" => some .loadIncidentCaseContext
  | "load_detection_match_context" => some .loadDetectionMatchContext
  | "load_threat_intelligence_match_context" => some .loadThreatIntelligenceMatchContext
  | "load_vulnerability_context" => some .loadVulnerabilityContext
  | "load_phishing_analysis_context" => some .loadPhishingAnalysisContext
  | "load_document_analysis_context" => some .loadDocumentAnalysisContext
  | "load_user_security_context" => some .loadUserSecurityContext
  | "load_session_metadata" => some .loadSessionMetadata
  | "load_asset_context" => some .loadAssetContext
  | "load_anomaly_context" => some .loadAnomalyContext
  | "calculate_workflow_risk_summary" => some .calculateWorkflowRiskSummary
  | "check_existing_case_link" => some .checkExistingCaseLink
  | "check_existing_remediation_task" => some .checkExistingRemediationTask
  | "check_existing_notification" => some .checkExistingNotification
  | "check_current_ownership" => some .checkCurrentOwnership
  | "create_incident_case" => some .createIncidentCase
  | "reuse_incident_case" => some .reuseIncidentCase
  | "assign_case_owner" => some .assignCaseOwner
  | "change_case_severity" => some .changeCaseSeverity
  | "add_case_comment" => some .addCaseComment
  | "add_case_evidence" => some .addCaseEvidence
  | "add_case_tag" => some .addCaseTag
  | "link_soc_alert_to_case" => some .linkSocAlertToCase
  | "link_detection_match_to_case" => some .linkDetectionMatchToCase
  | "link_threat_intelligence_match_to_case" => some .linkThreatIntelligenceMatchToCase
  | "link_vulnerability_to_case" => some .linkVulnerabilityToCase
  | "link_phishing_analysis_to_case" => some .linkPhishingAnalysisToCase
  | "link_document_analysis_to_case" => some .linkDocumentAnalysisToCase
  | "create_investigation_checklist_item" => some .createInvestigationChecklistItem
  | "create_case_follow_up_task" => some .createCaseFollowUpTask
  | "transition_case_lifecycle" => some .transitionCaseLifecycle
  | "mark_soc_alert_reviewing" => some .markSocAlertReviewing
  | "add_soc_alert_note" => some .addSocAlertNote
  | "create_alert_review_task" => some .createAlertReviewTask
  | "create_detection_suppression_proposal" => some .createDetectionSuppressionProposal
  | "create_analyst_review_task" => some .createAnalystReviewTask
  | "add_indicator_to_watchlist" => some .addIndicatorToWatchlist
  | "create_ioc_review_task" => some .createIocReviewTask
  | "assign_vulnerability" => some .assignVulnerability
  | "add_vulnerability_comment" => some .addVulnerabilityComment
  | "create_remediation_plan_draft" => some .createRemediationPlanDraft
  | "create_remediation_task" => some .createRemediationTask
  | "request_vulnerability_verification" => some .requestVulnerabilityVerification
  | "create_risk_acceptance_proposal" => some .createRiskAcceptanceProposal
  | "create_internal_notification" => some .createInternalNotification
  | "assign_internal_task" => some .assignInternalTask
  | "add_supported_record_tag" => some .addSupportedRecordTag
  | "capture_evidence_snapshot" => some .captureEvidenceSnapshot
  | "create_anomaly_case_proposal" => some .createAnomalyCaseProposal
  | "request_anomaly_review" => some .requestAnomalyReview
  | "generate_analytics_report" => some .generateAnalyticsReport
  | "add_anomaly_tag" => some .addAnomalyTag
  | "revoke_selected_session" => some .revokeSelectedSession
  | "revoke_other_user_sessions" => some .revokeOtherUserSessions
  | "temporarily_disable_user" => some .temporarilyDisableUser
  | "reenable_user" => some .reenableUser
  | "simulate_block_ip" => some .simulateBlockIp
  | "simulate_block_domain" => some .simulateBlockDomain
  | "simulate_block_url" => some .simulateBlockUrl
  | "simulate_quarantine_endpoint" => some .simulateQuarantineEndpoint
  | "simulate_isolate_host" => some .simulateIsolateHost
  | "simulate_disable_external_account" => some .simulateDisableExternalAccount
  | "simulate_revoke_external_token" => some .simulateRevokeExternalToken
  | "simulate_remove_malicious_email" => some .simulateRemoveMaliciousEmail
  | "simulate_update_firewall_rule" => some .simulateUpdateFirewallRule
  | "simulate_update_waf_rule" => some .simulateUpdateWafRule
  | "simulate_update_dns_blocklist" => some .simulateUpdateDnsBlocklist
  | "simulate_update_proxy_blocklist" => some .simulateUpdateProxyBlocklist
  | "simulate_update_edr_policy" => some .simulateUpdateEdrPolicy
  | "simulate_terminate_malicious_process" => some .simulateTerminateMaliciousProcess
  | "simulate_quarantine_malicious_file" => some .simulateQuarantineMaliciousFile
  | "restore_case_owner" => some .restoreCaseOwner
  | "restore_case_severity" => some .restoreCaseSeverity
  | "restore_case_status" => some .restoreCaseStatus
  | "remove_case_tag" => some .removeCaseTag
  | "cancel_case_task" => some .cancelCaseTask
  | "restore_vulnerability_owner" => some .restoreVulnerabilityOwner
  | "cancel_remediation_task" => some .cancelRemediationTask
  | "restore_playbook_enabled_state" => some .restorePlaybookEnabledState
  | "queue_connector_notification" => some .queueConnectorNotification
  | "queue_external_ticket_create" => some .queueExternalTicketCreate
  | "queue_external_ticket_update" => some .queueExternalTicketUpdate
  | "queue_siem_event_publish" => some .queueSiemEventPublish
  | "queue_stix_export" => some .queueStixExport
  | "test_connector_health" => some .testConnectorHealth
  | "create_connector_delivery_review_task" => some .createConnectorDeliveryReviewTask
  | _ => none

/-- The text of a key. -/
def text : ActionKey → String
  | .loadSocAlertContext => "load_soc_alert_context"
  | .loadIncidentCaseContext => "load_incident_case_context"
  | .loadDetectionMatchContext => "load_detection_match_context"
  | .loadThreatIntelligenceMatchContext => "load_threat_intelligence_match_context"
  | .loadVulnerabilityContext => "load_vulnerability_context"
  | .loadPhishingAnalysisContext => "load_phishing_analysis_context"
  | .loadDocumentAnalysisContext => "load_document_analysis_context"
  | .loadUserSecurityContext => "load_user_security_context"
  | .loadSessionMetadata => "load_session_metadata"
  | .loadAssetContext => "load_asset_context"
  | .loadAnomalyContext => "load_anomaly_context"
  | .calculateWorkflowRiskSummary => "calculate_workflow_risk_summary"
  | .checkExistingCaseLink => "check_existing_case_link"
  | .checkExistingRemediationTask => "check_existing_remediation_task"
  | .checkExistingNotification => "check_existing_notification"
  | .checkCurrentOwnership => "check_current_ownership"
  | .createIncidentCase => "create_incident_case"
  | .reuseIncidentCase => "reuse_incident_case"
  | .assignCaseOwner => "assign_case_owner"
  | .changeCaseSeverity => "change_case_severity"
  | .addCaseComment => "add_case_comment"
  | .addCaseEvidence => "add_case_evidence"
  | .addCaseTag => "add_case_tag"
  | .linkSocAlertToCase => "link_soc_alert_to_case"
  | .linkDetectionMatchToCase => "link_detection_match_to_case"
  | .linkThreatIntelligenceMatchToCase => "link_threat_intelligence_match_to_case"
  | .linkVulnerabilityToCase => "link_vulnerability_to_case"
  | .linkPhishingAnalysisToCase => "link_phishing_analysis_to_case"
  | .linkDocumentAnalysisToCase => "link_document_analysis_to_case"
  | .createInvestigationChecklistItem => "create_investigation_checklist_item"
  | .createCaseFollowUpTask => "create_case_follow_up_task"
  | .transitionCaseLifecycle => "transition_case_lifecycle"
  | .markSocAlertReviewing => "mark_soc_alert_reviewing"
  | .addSocAlertNote => "add_soc_alert_note"
  | .createAlertReviewTask => "create_alert_review_task"
  | .createDetectionSuppressionProposal => "create_detection_suppression_proposal"
  | .createAnalystReviewTask => "create_analyst_review_task"
  | .addIndicatorToWatchlist => "add_indicator_to_watchlist"
  | .createIocReviewTask => "create_ioc_review_task"
  | .assignVulnerability => "assign_vulnerability"
  | .addVulnerabilityComment => "add_vulnerability_comment"
  | .createRemediationPlanDraft => "create_remediation_plan_draft"
  | .createRemediationTask => "create_remediation_task"
  | .requestVulnerabilityVerification => "request_vulnerability_verification"
  | .createRiskAcceptanceProposal => "create_risk_acceptance_proposal"
  | .createInternalNotification => "create_internal_notification"
  | .assignInternalTask => "assign_internal_task"
  | .addSupportedRecordTag => "add_supported_record_tag"
  | .captureEvidenceSnapshot => "capture_evidence_snapshot"
  | .createAnomalyCaseProposal => "create_anomaly_case_proposal"
  | .requestAnomalyReview => "request_anomaly_review"
  | .generateAnalyticsReport => "generate_analytics_report"
  | .addAnomalyTag => "add_anomaly_tag"
  | .revokeSelectedSession => "revoke_selected_session"
  | .revokeOtherUserSessions => "revoke_other_user_sessions"
  | .temporarilyDisableUser => "temporarily_disable_user"
  | .reenableUser => "reenable_user"
  | .simulateBlockIp => "simulate_block_ip"
  | .simulateBlockDomain => "simulate_block_domain"
  | .simulateBlockUrl => "simulate_block_url"
  | .simulateQuarantineEndpoint => "simulate_quarantine_endpoint"
  | .simulateIsolateHost => "simulate_isolate_host"
  | .simulateDisableExternalAccount => "simulate_disable_external_account"
  | .simulateRevokeExternalToken => "simulate_revoke_external_token"
  | .simulateRemoveMaliciousEmail => "simulate_remove_malicious_email"
  | .simulateUpdateFirewallRule => "simulate_update_firewall_rule"
  | .simulateUpdateWafRule => "simulate_update_waf_rule"
  | .simulateUpdateDnsBlocklist => "simulate_update_dns_blocklist"
  | .simulateUpdateProxyBlocklist => "simulate_update_proxy_blocklist"
  | .simulateUpdateEdrPolicy => "simulate_update_edr_policy"
  | .simulateTerminateMaliciousProcess => "simulate_terminate_malicious_process"
  | .simulateQuarantineMaliciousFile => "simulate_quarantine_malicious_file"
  | .restoreCaseOwner => "restore_case_owner"
  | .restoreCaseSeverity => "restore_case_severity"
  | .restoreCaseStatus => "restore_case_status"
  | .removeCaseTag => "remove_case_tag"
  | .cancelCaseTask => "cancel_case_task"
  | .restoreVulnerabilityOwner => "restore_vulnerability_owner"
  | .cancelRemediationTask => "cancel_remediation_task"
  | .restorePlaybookEnabledState => "restore_playbook_enabled_state"
  | .queueConnectorNotification => "queue_connector_notification"
  | .queueExternalTicketCreate => "queue_external_ticket_create"
  | .queueExternalTicketUpdate => "queue_external_ticket_update"
  | .queueSiemEventPublish => "queue_siem_event_publish"
  | .queueStixExport => "queue_stix_export"
  | .testConnectorHealth => "test_connector_health"
  | .createConnectorDeliveryReviewTask => "create_connector_delivery_review_task"

end ActionKey

end ThreatScope.Soar
