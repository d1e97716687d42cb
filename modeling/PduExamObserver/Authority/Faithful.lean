import PduExamObserver.Authority.Effects

/-! # A store that keeps its word

The store that does exactly what it is asked to, and the environments in which every guard, durability and
cleanup step succeeds. -/

namespace PduExamObserver.Authority
set_option autoImplicit false

def observed (hash : Sha256) (leaf : AuthorityLeaf) (current : Option Bytes) : CanonicalInspection where
  state := match current with
    | none => .absent
    | some value => (classifyCanonicalLeafRecord hash leaf value).getD .presentInvalid
  record := current
  durability := .verified

def faithfulStore (hash : Sha256) : CanonicalAuthorityPersistence where
  inspect leaf current := .ok (observed hash leaf current)
  createExact _ current bytes :=
    if current = none then (.ok ⟨.ok, .presentValid, some bytes⟩, some bytes)
    else (.ok ⟨.createFailed, .zeroWrite, none⟩, current)
  casExact _ current prior bytes :=
    if current = some prior then (.ok ⟨.ok, .presentValid, some bytes⟩, some bytes)
    else (.ok ⟨.casMismatch, .zeroWrite, none⟩, current)

@[simp] theorem faithfulStore_inspect (hash : Sha256) (leaf : AuthorityLeaf) (current : Option Bytes) :
    (faithfulStore hash).inspect leaf current = .ok (observed hash leaf current) := rfl

@[simp] theorem observed_record (hash : Sha256) (leaf : AuthorityLeaf) (current : Option Bytes) :
    (observed hash leaf current).record = current := rfl

@[simp] theorem observed_none (hash : Sha256) (leaf : AuthorityLeaf) :
    (observed hash leaf none).state = .absent := rfl

theorem faithfulStore_contract (hash : Sha256) : WriteContract hash (faithfulStore hash) := by
  have hwritten : ∀ (prior current : Option Bytes) (bytes : Bytes) (refusal : PersistenceOutcome), refusal ≠ .ok →
      Written hash prior current bytes
        (if current = prior then (.ok ⟨.ok, .presentValid, some bytes⟩, some bytes)
        else (.ok ⟨refusal, .zeroWrite, none⟩, current)) := by
    intro prior current bytes refusal hrefusal
    by_cases hmatch : current = prior
    · simp only [if_pos hmatch]
      constructor <;> simp [hmatch]
    · simp only [if_neg hmatch]
      constructor <;> simp [hrefusal]
  exact ⟨fun _ current bytes => hwritten none current bytes .createFailed (by decide),
    fun _ current prior bytes => hwritten (some prior) current bytes .casMismatch (by decide)⟩

def reliableSession (approved : Call (Option ApprovedRP2Triple))
    (attestation : Call (Option PreparedBindingAttestation)) : MutationSession where
  writePermitted := true
  validateBefore _ := .ok .valid
  validateAfter _ := .ok .valid
  parentDurable _ := .ok .verified
  attestA0BeforePending := approved
  attestPending := attestation
  closeLeases := .ok .clean
  releaseMutex := .ok .clean
  closeMutex := .ok .clean

/-- Every guard, validation, durability and cleanup step succeeds over a faithful store. The supervisor, the
clocks and the entropy source may still answer anything, and raise. -/
structure Reliable (hash : Sha256) (env : Environment) : Prop where
  persistence : env.persistence = faithfulStore hash
  begin : ∃ approved attestation, env.begin = .ok ⟨.acquired, some (reliableSession approved attestation)⟩

section Reliable

variable {hash : Sha256} {env : Environment} {approved : Call (Option ApprovedRP2Triple)}
  {attestation : Call (Option PreparedBindingAttestation)}

theorem Reliable.contract (h : Reliable hash env) : WriteContract hash env.persistence := by
  rw [h.persistence]
  exact faithfulStore_contract hash

theorem mutation_reliable {α : Type} {lifecycle : Lifecycle} {store : Store} {body : MutationSession → Ran α}
    {settle : Bool → α → Lifecycle → Lifecycle × PersistenceOutcome}
    (h : env.begin = .ok ⟨.acquired, some (reliableSession approved attestation)⟩) :
    mutation env lifecycle store body settle =
      match (body (reliableSession approved attestation)).result with
      | .error e => ⟨(body (reliableSession approved attestation)).lifecycle,
          (body (reliableSession approved attestation)).store, .error e⟩
      | .ok a =>
        ⟨(settle true a (body (reliableSession approved attestation)).lifecycle).1,
          (body (reliableSession approved attestation)).store,
          .ok (settle true a (body (reliableSession approved attestation)).lifecycle).2⟩ := by
  rw [mutation, h]
  rfl

variable {k : Nat} {lifecycle onOk onExact : Lifecycle} {onPost : PersistenceOutcome → Lifecycle} {store : Store}
  {leaf : AuthorityLeaf} {bytes : Bytes}

theorem afterWrite_create (habsent : store leaf = none) :
    afterWrite (reliableSession approved attestation) k lifecycle onOk onExact onPost
        (Function.update store leaf ((faithfulStore hash).createExact leaf (store leaf) bytes).2) bytes
        ((faithfulStore hash).createExact leaf (store leaf) bytes).1 =
      ⟨onPost .ok, Function.update store leaf (some bytes), .ok .ok⟩ := by
  simp [faithfulStore, habsent, afterWrite, writeStatus, postWrite, reliableSession, ok_bind, pure, Except.pure]

theorem afterWrite_cas {prior : Bytes} (hprior : store leaf = some prior) :
    afterWrite (reliableSession approved attestation) k lifecycle onOk onExact onPost
        (Function.update store leaf ((faithfulStore hash).casExact leaf (store leaf) prior bytes).2) bytes
        ((faithfulStore hash).casExact leaf (store leaf) prior bytes).1 =
      ⟨onPost .ok, Function.update store leaf (some bytes), .ok .ok⟩ := by
  simp [faithfulStore, hprior, afterWrite, writeStatus, postWrite, reliableSession, ok_bind, pure, Except.pure]

/-! What the writes of the five operations come to. -/

theorem prepareReplace_reliable {pending : Bytes} {prepared : PreparedBindingAttestation}
    (h : store .prepared = some pending) :
    prepareReplace hash (reliableSession approved attestation) (faithfulStore hash) lifecycle store pending prepared =
      ⟨{ lifecycle with
          prepared := some (record .prepared (preparedValues hash prepared (lifecycle.epochDigest hash) pending))
          state := .prepared },
        Function.update store .prepared
          (some (record .prepared (preparedValues hash prepared (lifecycle.epochDigest hash) pending))),
        .ok .ok⟩ := by
  rw [prepareReplace, afterWrite_cas h, if_pos rfl]

theorem prepareCreate_reliable {triple : ApprovedRP2Triple} (h : store .prepared = none) :
    prepareCreate hash (reliableSession approved attestation) (faithfulStore hash) lifecycle store triple =
      prepareAttest hash (reliableSession approved attestation) (faithfulStore hash)
        { lifecycle with
          pending := some (record .pending (pendingValues triple (lifecycle.epochDigest hash)))
          state := .pending }
        (Function.update store .prepared
          (some (record .pending (pendingValues triple (lifecycle.epochDigest hash)))))
        (record .pending (pendingValues triple (lifecycle.epochDigest hash))) triple := by
  simp only [prepareCreate]
  rw [afterWrite_create h]

variable {get : Getter} {consumed next : Bytes} {grant : CanonicalGrantInspection}

theorem consumeBody_reliable {prepared : Bytes} (h : store .prepared = some prepared)
    (hepoch : get "epoch_digest" = some (.str (lifecycle.epochDigest hash))) :
    consumeBody hash (faithfulStore hash) lifecycle store prepared get (reliableSession approved attestation) =
      ⟨{ lifecycle with
          consumed := some (record .consumed (consumedValues hash get (lifecycle.epochDigest hash) prepared))
          state := .consumedNoGrant },
        Function.update store .prepared
          (some (record .consumed (consumedValues hash get (lifecycle.epochDigest hash) prepared))),
        .ok .ok⟩ := by
  simp only [consumeBody, faithfulStore_inspect, hepoch]
  rw [if_neg (by simp [h]), if_neg (by simp), afterWrite_cas h]

theorem issueCreate_reliable {binding : WorkerGrantBindingAttestation}
    {issuedMonotonicNs : Int} {raw : List UInt8} (h : store .grant = none) :
    issueCreate hash (reliableSession approved attestation) (faithfulStore hash) lifecycle store binding consumed
        issuedMonotonicNs raw =
      ⟨{ lifecycle with
          grantRecord := some (record .grantIssued (issuedValues hash binding consumed (lifecycle.epochDigest hash)
            (hash.hexdigest (.raw raw)) issuedMonotonicNs))
          state := .issued
          grant := some ⟨hash.hexdigest (.raw raw), issuedMonotonicNs, issuedMonotonicNs + workerGrantTtlNs, false⟩ },
        Function.update store .grant (some (record .grantIssued (issuedValues hash binding consumed
          (lifecycle.epochDigest hash) (hash.hexdigest (.raw raw)) issuedMonotonicNs))),
        .ok .ok⟩ := by
  simp only [issueCreate]
  rw [afterWrite_create h]

theorem revokeBody_reliable {grantRecord : Bytes} {fields : Fields}
    (h : store .grant = some grantRecord)
    (hfields : validatedRecordOf hash .grantIssued (some grantRecord) = some fields) :
    revokeBody hash (faithfulStore hash) lifecycle store grant grantRecord consumed
        (reliableSession approved attestation) =
      ⟨{ lifecycle with
          grantRecord := some (record .grantRevoked
            (revokedValues hash (getter fields) consumed (lifecycle.epochDigest hash) grant grantRecord))
          state := .revokedTerminalPending },
        Function.update store .grant (some (record .grantRevoked
          (revokedValues hash (getter fields) consumed (lifecycle.epochDigest hash) grant grantRecord))),
        .ok .ok⟩ := by
  simp only [revokeBody, faithfulStore_inspect, hfields]
  rw [if_neg (by simp [h]), afterWrite_cas h]

theorem terminalCreate_reliable {binding : TerminalBindingAttestation} {disposition : GrantDisposition}
    {grantRecord : Option Bytes} (h : store .terminal = none) :
    terminalCreate hash (reliableSession approved attestation) (faithfulStore hash) lifecycle store binding
        disposition consumed grantRecord =
      ⟨{ lifecycle with state := .terminal },
        Function.update store .terminal
          (some (record .terminal (terminalValues hash binding consumed disposition grantRecord))),
        .ok .ok⟩ := by
  simp only [terminalCreate]
  rw [afterWrite_create h, if_pos rfl]

theorem terminalizeBody_notIssued {binding : TerminalBindingAttestation}
    (hprepared : store .prepared = some consumed) (hterminal : store .terminal = none) :
    terminalizeBody hash (faithfulStore hash) lifecycle store binding .notIssued consumed
        (reliableSession approved attestation) =
      ⟨{ lifecycle with state := .terminal },
        Function.update store .terminal
          (some (record .terminal (terminalValues hash binding consumed .notIssued none))), .ok .ok⟩ := by
  simp only [terminalizeBody, faithfulStore_inspect]
  rw [if_neg (by simp [hprepared]), if_neg (by simp [hterminal]), terminalCreate_reliable hterminal]

/-! What the operations come to, when nothing stands in their way. -/

theorem prepare_reliable {triple : ApprovedRP2Triple} {prepared : PreparedBindingAttestation}
    (hbegin : env.begin = .ok ⟨.acquired, some (reliableSession (.ok (some triple)) (.ok (some prepared)))⟩)
    (hpersistence : env.persistence = faithfulStore hash) (hstate : lifecycle.state = .absent)
    (hnone : store .prepared = none) (htriple : triple.valid = true) (hprepared : prepared.valid = true)
    (hstatic : prepared.staticBindingsDigest = triple.staticBindingsDigest)
    (hschema : prepared.bindingSchemaDigest = triple.bindingSchemaCanonicalSha256)
    (hmanifest : prepared.manifestSha256 = triple.candidateExactBytesSha256) {pending : Bytes}
    (hpending : record .pending (pendingValues triple (lifecycle.epochDigest hash)) = pending)
    (hnext : record .prepared (preparedValues hash prepared (lifecycle.epochDigest hash) pending) = next) :
    prepare hash env lifecycle store =
      ⟨{ lifecycle with
          approvedRp2 := some triple
          pending := some pending
          prepared := some next
          state := .prepared
          livePrepared := true }, Function.update store .prepared (some next), .ok .ok⟩ := by
  subst hpending hnext
  have hbody : prepareBody hash (faithfulStore hash) lifecycle store
      (reliableSession (.ok (some triple)) (.ok (some prepared))) =
        prepareCreate hash (reliableSession (.ok (some triple)) (.ok (some prepared))) (faithfulStore hash)
          { lifecycle with approvedRp2 := some triple } store triple := by
    simp [prepareBody, hnone, reliableSession, htriple]
  have hattest : ∀ lifecycle store pending,
      prepareAttest hash (reliableSession (.ok (some triple)) (.ok (some prepared))) (faithfulStore hash) lifecycle
        store pending triple =
      prepareReplace hash (reliableSession (.ok (some triple)) (.ok (some prepared))) (faithfulStore hash) lifecycle
        store pending prepared := by
    intro lifecycle store pending
    simp [prepareAttest, reliableSession, hprepared, hstatic, hschema, hmanifest]
  rw [prepare, if_neg (by simp [hstate]), mutation_reliable hbegin, hpersistence, hbody,
    prepareCreate_reliable hnone, hattest, prepareReplace_reliable update_same]
  simp only [prepareSettle, Function.update_idem]
  rfl

theorem consume_reliable {prepared : Bytes}
    (hbegin : env.begin = .ok ⟨.acquired, some (reliableSession approved attestation)⟩)
    (hpersistence : env.persistence = faithfulStore hash) (hstate : lifecycle.state = .prepared)
    (hlive : lifecycle.livePrepared = true) (hprepared : lifecycle.prepared = some prepared)
    (hstore : store .prepared = some prepared) (hreads : Reads hash prepared .prepared get)
    (hwindow : withinPreparedWindow get env.nowUnixNs = true)
    (hepoch : get "epoch_digest" = some (.str (lifecycle.epochDigest hash)))
    (hnext : record .consumed (consumedValues hash get (lifecycle.epochDigest hash) prepared) = next) :
    consume hash env lifecycle store =
      ⟨{ lifecycle with consumed := some next, state := .consumedNoGrant, liveConsumed := true },
        Function.update store .prepared (some next), .ok .ok⟩ := by
  obtain ⟨fields, hfields, rfl⟩ := hreads.validatedRecordOf
  subst hnext
  have hstart : consume hash env lifecycle store = mutation env lifecycle store
      (consumeBody hash env.persistence lifecycle store prepared (getter fields)) consumeSettle := by
    simp [consume, hprepared, hstate, hlive, hfields, hwindow]
  rw [hstart, mutation_reliable hbegin, hpersistence, consumeBody_reliable hstore hepoch]
  rfl

theorem issueGrant_reliable {binding : WorkerGrantBindingAttestation}
    {now : Int} {raw : List UInt8}
    (hbegin : env.begin = .ok ⟨.acquired, some (reliableSession approved attestation)⟩)
    (hpersistence : env.persistence = faithfulStore hash)
    (hauthorized : issueAuthorized hash lifecycle binding = some consumed) (hstore : store .prepared = some consumed)
    (hnone : store .grant = none) (hclock : env.clockNs = .ok now) (hnow : 0 ≤ now)
    (hlimit : now ≤ maxSignedNs - workerGrantTtlNs) (hentropy : env.grantEntropy = .ok raw) (hraw : raw.length = 32)
    (hnext : record .grantIssued (issuedValues hash binding consumed (lifecycle.epochDigest hash)
      (hash.hexdigest (.raw raw)) now) = next) :
    issueGrant hash env lifecycle store binding =
      ⟨{ lifecycle with
          grantRecord := some next
          state := .issued
          grant := some ⟨hash.hexdigest (.raw raw), now, now + workerGrantTtlNs, false⟩
          grantRaw := some raw }, Function.update store .grant (some next), .ok .ok⟩ := by
  subst hnext
  have hbody : issueBody hash env lifecycle store binding consumed (reliableSession approved attestation) =
      ⟨{ lifecycle with
          grantRecord := some (record .grantIssued (issuedValues hash binding consumed (lifecycle.epochDigest hash)
            (hash.hexdigest (.raw raw)) now))
          state := .issued
          grant := some ⟨hash.hexdigest (.raw raw), now, now + workerGrantTtlNs, false⟩ },
        Function.update store .grant (some (record .grantIssued (issuedValues hash binding consumed
          (lifecycle.epochDigest hash) (hash.hexdigest (.raw raw)) now))), .ok (.ok, some raw)⟩ := by
    simp only [issueBody, hpersistence, faithfulStore_inspect, hclock, hentropy]
    rw [if_neg (by simp [hstore, hnone]), if_neg (by omega), if_neg (by simp [hraw]), issueCreate_reliable hnone]
    rfl
  simp only [issueGrant, hauthorized]
  rw [mutation_reliable hbegin, hbody]
  rfl

theorem revokeGrant_reliable {grantRecord : Bytes}
    (hbegin : env.begin = .ok ⟨.acquired, some (reliableSession approved attestation)⟩)
    (hpersistence : env.persistence = faithfulStore hash) (hstate : lifecycle.state = .issued)
    (hgrant : lifecycle.grant = some grant) (hrecord : lifecycle.grantRecord = some grantRecord)
    (hconsumed : lifecycle.consumed = some consumed) (hstore : store .grant = some grantRecord)
    (hreads : Reads hash grantRecord .grantIssued get)
    (hnext : record .grantRevoked (revokedValues hash get consumed (lifecycle.epochDigest hash) grant
      grantRecord) = next) :
    revokeGrant hash env lifecycle store =
      ⟨{ lifecycle with
          grantRaw := none
          grantHandedOff := true
          grantRecord := some next
          state := .revokedTerminalPending }, Function.update store .grant (some next), .ok .ok⟩ := by
  obtain ⟨fields, hfields, rfl⟩ := hreads.validatedRecordOf
  subst hnext
  have hstart : revokeGrant hash env lifecycle store =
      mutation env { lifecycle with grantRaw := none, grantHandedOff := true } store
        (revokeBody hash env.persistence { lifecycle with grantRaw := none, grantHandedOff := true } store grant
          grantRecord consumed) revokeSettle := by
    simp [revokeGrant, hgrant, hrecord, hconsumed, hstate]
  rw [hstart, mutation_reliable hbegin, hpersistence, revokeBody_reliable hstore hfields]
  rfl

theorem terminalize_reliable {binding : TerminalBindingAttestation}
    (hbegin : env.begin = .ok ⟨.acquired, some (reliableSession approved attestation)⟩)
    (hpersistence : env.persistence = faithfulStore hash)
    (hauthorized : terminalAuthorized hash lifecycle binding = .ok (.notIssued, consumed))
    (hprepared : store .prepared = some consumed) (hterminal : store .terminal = none) :
    terminalize hash env lifecycle store binding =
      ⟨{ lifecycle with state := .terminal },
        Function.update store .terminal
          (some (record .terminal (terminalValues hash binding consumed .notIssued none))), .ok .ok⟩ := by
  simp only [terminalize, hauthorized]
  rw [mutation_reliable hbegin, hpersistence, terminalizeBody_notIssued hprepared hterminal]
  rfl

end Reliable

/-! ## A sample of everything -/

namespace Sample

def digit : Bytes → Char
  | .record fields =>
    match fields.lookup "state" with
    | some (.str "PENDING") => 'a'
    | some (.str "PREPARED") => 'b'
    | some (.str "CONSUMED") => 'c'
    | some (.str "ISSUED") => 'd'
    | some (.str "REVOKED") => 'e'
    | _ => 'f'
  | .text (.object _) => '8'
  | .text (.array _) => '9'
  | .raw (0 :: _) => '0'
  | .raw (1 :: _) => '1'
  | .raw _ => '2'

def repeated (digit : Char) : String := String.ofList (List.replicate 64 digit)

theorem isHexDigest_repeated (digit : Char) :
    isHexDigest (repeated digit) = "0123456789abcdef".toList.contains digit :=
  isHexDigest_replicate digit

def hash : Sha256 where
  hexdigest value := repeated (digit value)
  digest value := by
    rw [isHexDigest_repeated]
    unfold digit
    split
    · split <;> decide
    all_goals decide

def approved : ApprovedRP2Triple where
  staticBindingsDigest := repeated 'a'
  bindingSchemaCanonicalSha256 := repeated 'b'
  candidateExactBytesSha256 := repeated 'c'
  a0ApprovalDigest := repeated '0'
  approvalIdDigest := repeated '1'
  issuedUnixNs := 1
  expiresUnixNs := 900000000001

def attestation : PreparedBindingAttestation where
  authorityRevision := "d1-n2-authority-v1"
  schemaVersion := 3
  staticBindingsDigest := repeated 'a'
  bindingSchemaDigest := repeated 'b'
  manifestSha256 := repeated 'c'
  cameraCount := 1
  cameraStatus := "PRESENT_OK"
  opaqueDeviceToken := repeated 'd'
  supervisorPathDigest := repeated 'e'
  supervisorSha256 := repeated 'f'
  supervisorSizeBytes := 100
  supervisorIdentityDigest := repeated '1'
  ffmpegPathDigest := repeated '2'
  ffmpegSha256 := repeated '3'
  ffmpegSizeBytes := 200
  ffmpegIdentityDigest := repeated '4'
  ffmpegVersionDigest := repeated '5'
  dependencyObservationDigest := repeated '6'
  poseModelSha256 := repeated '7'
  poseModelSizeBytes := 300
  faceModelSha256 := repeated '8'
  faceModelSizeBytes := 400
  authorizationNonceDigest := repeated '9'
  issuedUnixNs := 1000
  expiresUnixNs := 900000001000

theorem approved_valid : approved.valid = true := by
  simp only [ApprovedRP2Triple.valid, approved, isHexDigest_repeated]
  decide

theorem attestation_valid : attestation.valid = true := by
  simp only [PreparedBindingAttestation.valid, attestation, List.all_cons, List.all_nil, isHexDigest_repeated]
  decide

def environment : Environment where
  begin := .ok ⟨.acquired, some (reliableSession (.ok (some approved)) (.ok (some attestation)))⟩
  persistence := faithfulStore hash
  clockNs := .ok 100
  unixClockNs := .ok 1000
  grantEntropy := .ok (List.replicate 32 7)

def epoch : List UInt8 := List.replicate 32 0

def capability : List UInt8 := List.replicate 32 7

/-! The records and the instance of a run that prepares, consumes and issues. -/

def pendingRecord : Bytes := record .pending (pendingValues approved (hash.hexdigest (.raw epoch)))

def preparedFields : Fields :=
  recordFields .prepared (preparedValues hash attestation (hash.hexdigest (.raw epoch)) pendingRecord)

def preparedRecord : Bytes :=
  record .prepared (preparedValues hash attestation (hash.hexdigest (.raw epoch)) pendingRecord)

def consumedRecord : Bytes :=
  record .consumed (consumedValues hash (getter preparedFields) (hash.hexdigest (.raw epoch)) preparedRecord)

def workerBinding : WorkerGrantBindingAttestation where
  preparedAuthorityDigest := hash.hexdigest preparedRecord
  workerSha256 := repeated 'b'
  workerSizeBytes := 1
  workerIdentityDigest := repeated 'c'
  workerArgvDigest := repeated 'd'
  workerJobPolicyDigest := repeated 'e'
  challengeDigest := repeated '2'
  jobNameDigest := repeated '3'
  durationSeconds := 60
  videoOnly := true
  retry := false

theorem workerBinding_valid : workerBinding.valid = true := by
  have hprepared : isHexDigest (hash.hexdigest preparedRecord) = true := hash.digest _
  simp only [WorkerGrantBindingAttestation.valid, workerBinding, List.all_cons, List.all_nil, hprepared,
    isHexDigest_repeated]
  decide

def issuedRecord : Bytes :=
  record .grantIssued (issuedValues hash workerBinding consumedRecord (hash.hexdigest (.raw epoch))
    (hash.hexdigest (.raw capability)) 100)

def absent : Lifecycle := { epoch, state := .absent }

def prepared : Lifecycle :=
  { absent with
    approvedRp2 := some approved
    pending := some pendingRecord
    prepared := some preparedRecord
    state := .prepared
    livePrepared := true }

def consumed : Lifecycle :=
  { prepared with consumed := some consumedRecord, state := .consumedNoGrant, liveConsumed := true }

def issued : Lifecycle :=
  { consumed with
    grantRecord := some issuedRecord
    state := .issued
    grant := some ⟨hash.hexdigest (.raw capability), 100, 100 + workerGrantTtlNs, false⟩
    grantRaw := some capability }

def emptyStore : Store := fun _ => none

def preparedStore : Store := Function.update emptyStore .prepared (some preparedRecord)

def consumedStore : Store := Function.update preparedStore .prepared (some consumedRecord)

def issuedStore : Store := Function.update consumedStore .grant (some issuedRecord)

theorem construct_absent : construct hash environment epoch emptyStore = .ok absent := rfl

theorem prepare_absent : prepare hash environment absent emptyStore = ⟨prepared, preparedStore, .ok .ok⟩ :=
  prepare_reliable rfl rfl rfl rfl approved_valid attestation_valid rfl rfl rfl rfl rfl

theorem consume_prepared : consume hash environment prepared preparedStore = ⟨consumed, consumedStore, .ok .ok⟩ :=
  consume_reliable rfl rfl rfl rfl rfl rfl (prepared_reads attestation_valid (hash.digest _)) (by decide) rfl rfl

theorem issueAuthorized_consumed : issueAuthorized hash consumed workerBinding = some consumedRecord := by
  simp [issueAuthorized, consumed, prepared, workerBinding_valid]
  rfl

theorem issue_consumed : issueGrant hash environment consumed consumedStore workerBinding =
    ⟨issued, issuedStore, .ok .ok⟩ :=
  issueGrant_reliable rfl rfl issueAuthorized_consumed rfl rfl rfl (by decide) (by decide) rfl rfl rfl

end Sample

end PduExamObserver.Authority
