import PduExamObserver.D1Contract.Schema

/-! # The D1 contract: what is hashed

The JSON value of each part of a request and of a receipt, and the digests over them. -/

namespace PduExamObserver.D1Contract
set_option autoImplicit false

/-! ## Parts of a request -/

def stagePayload (value : EncoderDurabilityEvidence) : Json :=
  .object [("encoder_open", .str value.encoderOpen.value), ("encoder_write", .str value.encoderWrite.value),
    ("encoder_finalize", .str value.encoderFinalize.value), ("durability", .str value.durability.value)]

def throughputPayload (values : List ThroughputSample) : Json :=
  .array (values.map fun item => .array [.int item.secondIndex, .number item.bytesPerSecond])

def planPayload (plan : RunPlan) : Json :=
  .object [("run_kind", .str plan.runKind.value), ("width", .int plan.width), ("height", .int plan.height),
    ("frames_per_second", .int plan.framesPerSecond),
    ("requested_duration_seconds", .int plan.requestedDurationSeconds), ("warmup_seconds", .int plan.warmupSeconds),
    ("run_end_monotonic_ns", .int plan.runEndMonotonicNs)]

def strOrNull : Option String → Json
  | none => .null
  | some s => .str s

def observationPayload (item : Observation) : Json :=
  .object [("source_kind", strOrNull (item.sourceKind.map InputKind.value)),
    ("captured_monotonic_ns", item.capturedMonotonicNs),
    ("processed_monotonic_ns", item.processedMonotonicNs),
    ("disposition", strOrNull (item.disposition.map FrameDisposition.value)),
    ("quality_insufficient", item.qualityInsufficient),
    ("failure_code", match item.failureCode with
      | .code code => .str code.value
      | _ => .null),
    ("drop_reason", match item.dropReason with
      | .reason reason => .str reason.value
      | _ => .null)]

def diskPayload (disk : DiskEvidence) : Json :=
  .object [("free_bytes", .int disk.freeBytes), ("encoded_byte_count", .int disk.encodedByteCount),
    ("encoded_byte_rate", .number disk.encodedByteRate),
    ("throughput_samples", throughputPayload disk.throughputSamples), ("stages", stagePayload disk.stages)]

def inputCorePayload (plan : RunPlan) (observations : List Observation) (disk : DiskEvidence) : Json :=
  .object [("plan", planPayload plan), ("observations", .array (observations.map observationPayload)),
    ("disk", diskPayload disk)]

def canonicalInputDigest (setup : Setup) (plan : RunPlan) (observations : List Observation) (disk : DiskEvidence) :
    String :=
  setup.digest (inputCorePayload plan observations disk)

def canonicalEvaluationDigest (setup : Setup) (request : ValidationInput) : String :=
  setup.digest (.object [("core_version", .int 1),
    ("input_digest", .str (canonicalInputDigest setup request.plan request.observations request.disk)),
    ("input_kind", .str request.inputKind.value),
    ("injected_failures", .array (request.injectedFailures.map fun code => .str code.value))])

def authorityPayload (value : AuthorityReceipt) : Json :=
  .object [("schema_version", .int value.schemaVersion), ("receipt_kind", .str value.receiptKind),
    ("decision_date", .str value.decisionDate), ("decision_owner", .str value.decisionOwner),
    ("proposal_sha256", .str value.proposalSha256), ("readiness_version", .str value.readinessVersion),
    ("p1_accepted", .bool value.p1Accepted), ("d1_authorized", .bool value.d1Authorized),
    ("physical_camera_access_authorized", .bool value.physicalCameraAccessAuthorized),
    ("participant_collection_authorized", .bool value.participantCollectionAuthorized),
    ("model_evaluation_authorized", .bool value.modelEvaluationAuthorized),
    ("m1_recording_or_persistence_export_authorized", .bool value.m1RecordingOrPersistenceExportAuthorized)]

def provenancePayload (value : InputProvenanceReceipt) : Json :=
  .object [("schema_version", .int value.schemaVersion), ("source_kind", .str value.sourceKind.value),
    ("source_version", .str value.sourceVersion), ("generator_id", .str value.generatorId),
    ("canonical_input_digest", .str value.canonicalInputDigest), ("frame_count", .int value.frameCount),
    ("simulated_no_human", .bool value.simulatedNoHuman),
    ("dataset_use_prohibited", .bool value.datasetUseProhibited),
    ("leakage_statement", .str value.leakageStatement), ("deterministic_seed", .str value.deterministicSeed),
    ("baseline_id", .str value.baselineId), ("mutant_ids", .array (value.mutantIds.map .str))]

def environmentPayload (value : EnvironmentReceipt) : Json :=
  .object [("schema_version", .int value.schemaVersion), ("receipt_kind", .str value.receiptKind),
    ("application_revision_digest", .str value.applicationRevisionDigest),
    ("release_manifest_digest", .str value.releaseManifestDigest),
    ("pose_engine_digest", .str value.poseEngineDigest), ("encoder_digest", .str value.encoderDigest),
    ("operating_system", .str value.operatingSystem), ("locale", .str value.locale), ("timezone", .str value.timezone),
    ("offline", .bool value.offline), ("injected_only", .bool value.injectedOnly),
    ("camera_not_accessed", .bool value.cameraNotAccessed), ("driver_unverified", .bool value.driverUnverified),
    ("audio_prohibited", .bool value.audioProhibited)]

def reproductionPayload (value : ReproductionReceipt) : Json :=
  .object [("schema_version", .int value.schemaVersion), ("receipt_kind", .str value.receiptKind),
    ("noninteractive_invocation", .str value.noninteractiveInvocation),
    ("dependency_artifact", .str value.dependencyArtifact), ("lock_digest", .str value.lockDigest),
    ("source_digest", .str value.sourceDigest), ("deterministic_seed", .str value.deterministicSeed),
    ("threshold_version", .str value.thresholdVersion), ("baseline_id", .str value.baselineId),
    ("mutant_ids", .array (value.mutantIds.map .str)), ("uncertainty_statement", .str value.uncertaintyStatement),
    ("input_digest", .str value.inputDigest), ("expected_evaluation_digest", .str value.expectedEvaluationDigest)]

def privacyStopDigest (setup : Setup) (checked : Int) : String :=
  setup.digest (.object [("receipt_scope", .str "PRIVACY_STOP_MINIMAL_V1"), ("privacy_checked_frames", .int checked),
    ("privacy_stop_count", .int 1)])

/-! ## Receipts -/

def itemsPayload (items : List (String × Int)) : Json :=
  .array (items.map fun item => .array [.str item.1, .int item.2])

def accountingPayload (value : Accounting) : Json :=
  .object [("delivered_frames", .int value.deliveredFrames), ("inter_frame_gaps", .int value.interFrameGaps),
    ("processed", .int value.processed), ("dropped_explicit", .int value.droppedExplicit),
    ("failed", .int value.failed), ("quality_insufficient", .int value.qualityInsufficient),
    ("drop_reasons", itemsPayload value.dropReasons)]

def metricsPayload (value : MetricSummary) : Json :=
  .object [("first_capture_monotonic_ns", .int value.firstCaptureMonotonicNs),
    ("run_end_monotonic_ns", .int value.runEndMonotonicNs),
    ("measured_total_seconds", .float value.measuredTotalSeconds),
    ("measured_post_warmup_seconds", .float value.measuredPostWarmupSeconds),
    ("delivered_frames_per_second", .float value.deliveredFramesPerSecond),
    ("p95_inter_frame_gap_ms", .optional value.p95InterFrameGapMs),
    ("p95_pose_latency_ms", .optional value.p95PoseLatencyMs),
    ("p99_pose_latency_ms", .optional value.p99PoseLatencyMs),
    ("p10_preflight_throughput_bytes_per_second", .optional value.p10PreflightThroughputBytesPerSecond),
    ("backlog_ms", .optional value.backlogMs)]

namespace D1Receipt

/-- `canonical_payload`: everything but the digest of the result. -/
def canonicalPayload (receipt : D1Receipt) : Json :=
  .object [("accounting", accountingPayload receipt.accounting), ("authority_digest", .str receipt.authorityDigest),
    ("device_gate_decision", .str receipt.deviceGateDecision.value),
    ("encoded_byte_count", .int receipt.encodedByteCount), ("encoded_byte_rate", .number receipt.encodedByteRate),
    ("environment_digest", .str receipt.environmentDigest),
    ("evaluation_core_digest", .str receipt.evaluationCoreDigest),
    ("evidence_kind", .str receipt.evidenceKind.value), ("export_attempted", .bool receipt.exportAttempted),
    ("failure_code", strOrNull (receipt.failureCode.map D1FailureCode.value)),
    ("failure_counts", itemsPayload receipt.failureCounts), ("frames_per_second", .int receipt.framesPerSecond),
    ("free_bytes", .int receipt.freeBytes), ("input_digest", .str receipt.inputDigest),
    ("metrics", metricsPayload receipt.metrics), ("outcome", .str receipt.outcome.value),
    ("privacy_checked_frames", .int receipt.privacyCheckedFrames),
    ("privacy_stop_count", .int receipt.privacyStopCount), ("provenance_digest", .str receipt.provenanceDigest),
    ("reproduction_digest", .str receipt.reproductionDigest), ("required_bytes", .int receipt.requiredBytes),
    ("requested_duration_seconds", .int receipt.requestedDurationSeconds), ("run_kind", .str receipt.runKind.value),
    ("schema_version", .int receipt.schemaVersion), ("seal_attempted", .bool receipt.sealAttempted),
    ("stages", stagePayload receipt.stages), ("throughput_digest", .str receipt.throughputDigest),
    ("throughput_sample_count", .int receipt.throughputSampleCount),
    ("warmup_accounting", accountingPayload receipt.warmupAccounting), ("warmup_seconds", .int receipt.warmupSeconds),
    ("width", .int receipt.width), ("height", .int receipt.height)]

def recomputeDigest (setup : Setup) (receipt : D1Receipt) : String := setup.digest receipt.canonicalPayload

/-- `replace(base, result_digest=base.recompute_digest())`. -/
def sealed (setup : Setup) (receipt : D1Receipt) : D1Receipt :=
  { receipt with resultDigest := receipt.recomputeDigest setup }

end D1Receipt

end PduExamObserver.D1Contract
