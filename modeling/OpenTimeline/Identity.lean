import OpenTimeline.Library.OrderedDict
import OpenTimeline.TaskState.Records

/-! Who a request is from.

A request has a credential, and headers that say who it is from. A credential that the server has a claim for is who
the claim says; of any other the headers are believed, unless claims are enforced. Either way no header makes a
request more than its credential is: what it may attest, and whether its identity is verified, come from the
credential alone, and where claims are enforced all of the identity does (`identity_from_credential`). Host capture is
for verified users (`host_capture_for_users`). -/
namespace OpenTimeline.Identity
open Library
open TaskState (orElse)

variable (host : Host)

/-! ### Claims -/

inductive AgentRole
  | user | executor | advisor
deriving DecidableEq, Repr

/-- `AgentRole(value)`, `none` where it raises. -/
def AgentRole.ofValue : String → Option AgentRole
  | "user" => some .user
  | "executor" => some .executor
  | "advisor" => some .advisor
  | _ => none

def hostCaptureCapability : String := "host_capture"

structure BoundIdentity where
  consumer : String
  role : String
  workspaceId : String
  userId : String
  behaviorSubjectId : String
  capabilities : List String
deriving DecidableEq, Repr

/-- `str(value or default).strip()` -/
def fieldOr (value : Json) (default : String) : String := strip (if truthy value then pyStr host value else default)

/-- `text[:160]` -/
def clip (limit : Nat) (text : String) : String := String.ofList (text.toList.take limit)

/-- A claim as it is written. -/
def identityOf (value : Payload) : BoundIdentity :=
  let consumer := orElse (fieldOr host (value.get "consumer") "bound-client") "bound-client"
  let userId := orElse (fieldOr host (value.get "user_id") consumer) consumer
  { consumer := clip 160 consumer
    role := clip 32 (host.lower (fieldOr host (value.get "role") "executor"))
    workspaceId := orElse (clip 160 (fieldOr host (value.get "workspace_id") "personal")) "personal"
    userId := clip 160 userId
    behaviorSubjectId := orElse (clip 160 (fieldOr host (value.get "behavior_subject_id") userId)) (clip 160 userId)
    capabilities := match value.get "capabilities" with
      | .arr items => if items.any fun item => pyStr host item = hostCaptureCapability then [hostCaptureCapability]
        else []
      | _ => [] }

/-- `parse_identity_claims`, of the text of a setting. -/
def parseIdentityClaims (raw : String) : List (String × BoundIdentity) :=
  match host.loads (orElse (strip (orElse raw "{}")) "{}") with
  | some (.obj payload) => payload.foldl (fun claims entry => match entry.2 with
      | .obj value => assign (host.lower (strip entry.1)) (identityOf host value) claims
      | _ => claims) []
  | _ => []

/-- `credential_fingerprint` -/
def credentialFingerprint (kind credential : String) : String :=
  host.lower (strip kind) ++ ":" ++ host.sha256Hex credential

/-- `resolve_bound_identity` -/
def resolveBoundIdentity (claims : List (String × BoundIdentity)) (kind credential : String) : Option BoundIdentity :=
  let normalizedKind := host.lower (strip kind)
  let directKey := host.lower (normalizedKind ++ ":" ++ strip credential)
  (claims.lookup (credentialFingerprint host normalizedKind credential)).or (claims.lookup directKey)

/-- What the headers of a request say. -/
structure Headers where
  consumer : Option String
  role : Option String
  workspace : Option String
  user : Option String
  behaviorSubject : Option String
deriving DecidableEq, Repr

/-- `claim_conflicts` -/
def claimConflicts (identity : BoundIdentity) (asserted : Headers) : List String :=
  [("consumer", asserted.consumer, identity.consumer), ("role", asserted.role, identity.role),
    ("workspace_id", asserted.workspace, identity.workspaceId), ("user_id", asserted.user, identity.userId),
    ("behavior_subject_id", asserted.behaviorSubject, identity.behaviorSubjectId)].filterMap fun entry =>
      let token := strip (entry.2.1.getD "")
      if token ≠ "" ∧ token ≠ entry.2.2 then some entry.1 else none

/-! ### Contexts -/

structure AuthContext where
  consumer : String
  /-- Full only. -/
  mode : Option String
  role : AgentRole
  workspaceId : String
  userId : String
  behaviorSubjectId : String
  capabilities : List String
  identityVerified : Bool
deriving DecidableEq, Repr

inductive AuthError
  | http (status : Nat) (detail : String)
  | valueError
deriving DecidableEq, Repr

structure AuthSettings where
  authMode : String
  mtlsRequired : Bool
  apiTokens : List String
  hostCaptureTokens : List String
  identityClaimsJson : String
  identityClaimsMode : String

def AuthSettings.enforced (settings : AuthSettings) : Bool := host.lower settings.identityClaimsMode = "enforce"

/-- `_bound_capabilities` -/
def boundCapabilities (bound : BoundIdentity) : List String :=
  if bound.role ≠ "user" then [] else bound.capabilities.filter (· = hostCaptureCapability)

/-- What a request comes with: its headers apart. -/
structure Credential where
  authorization : Option String
  mtlsSubject : Option String
deriving DecidableEq, Repr

/-- What a credential is good for. -/
inductive Channel
  | mtls (subject : String)
  | hostCapture (token : String)
  | bearer (token : String)
deriving DecidableEq, Repr

/-- The claim that is looked for. -/
def Channel.claim (settings : AuthSettings) : Channel → Option BoundIdentity
  | .mtls subject => resolveBoundIdentity host (parseIdentityClaims host settings.identityClaimsJson) "mtls" subject
  | .hostCapture token =>
    resolveBoundIdentity host (parseIdentityClaims host settings.identityClaimsJson) "bearer" token
  | .bearer token => resolveBoundIdentity host (parseIdentityClaims host settings.identityClaimsJson) "bearer" token

/-- A claim, if it does not conflict; no claim is enough where claims are enforced. -/
def settle (settings : AuthSettings) (channel : Channel) (asserted : Headers) (conflict missing : String)
    (bound : BoundIdentity → Except AuthError AuthContext) (unbound : Except AuthError AuthContext) :
    Except AuthError AuthContext :=
  match channel.claim host settings with
  | some identity =>
    if settings.enforced host ∧ claimConflicts identity asserted ≠ [] then .error (.http 403 conflict)
    else bound identity
  | none => if settings.enforced host then .error (.http 403 missing) else unbound

/-- `authorization.split(" ", 1)`, where the first part is the scheme of a token. -/
def bearerToken (authorization : String) : Option String :=
  let scheme := authorization.toList.takeWhile (· ≠ ' ')
  match authorization.toList.dropWhile (· ≠ ' ') with
  | [] => none
  | _ :: rest => if host.lower (String.ofList scheme) = "bearer" then some (String.ofList rest) else none

/-- `(value or default).strip() or default`, of a default without blanks around it. -/
def headerOr (value : Option String) (default : String) : String := orElse (strip (value.getD "")) default

def invalidSubject (subject : String) : Bool := 160 < subject.length || subject.toList.any fun c => c.toNat < 32

def invalidCredentials : String :=
  "Invalid credentials. Provide Authorization: Bearer <token> and X-TCE-Workspace/X-TCE-User headers."

/-! ### Full -/

/-- `AuthContext` of Full. -/
def fullContext (consumer mode : String) (role : AgentRole) (workspaceId userId behaviorSubjectId : String)
    (capabilities : List String) (identityVerified : Bool) : AuthContext where
  consumer := consumer
  mode := some mode
  role := role
  workspaceId := workspaceId
  userId := userId
  behaviorSubjectId := orElse (strip (orElse behaviorSubjectId userId)) userId
  capabilities := capabilities
  identityVerified := identityVerified

/-- What the credential of a request is good for in Full. -/
def fullChannel (settings : AuthSettings) (credential : Credential) : Except AuthError Channel :=
  let unauthenticated := .error (.http 401 (if settings.mtlsRequired then "mTLS required" else invalidCredentials))
  let mode := host.lower settings.authMode
  match (credential.mtlsSubject.filter (· ≠ "")).filter fun _ => mode ∈ ["mtls", "dual"] with
  | some subject => .ok (.mtls subject)
  | none => match (credential.authorization.filter (· ≠ "")).filter fun _ => mode ∈ ["bearer", "dual"] with
    | none => unauthenticated
    | some authorization => match bearerToken host (strip authorization) with
      | none => unauthenticated
      | some token =>
        if token ∈ settings.hostCaptureTokens then
          if token ∈ settings.apiTokens then
            .error (.http 403 "credential is configured as both api and host-capture token")
          else .ok (.hostCapture token)
        else if token ∈ settings.apiTokens then .ok (.bearer token)
        else unauthenticated

/-- The context of a claim in Full: an unknown role raises. -/
def fullBound (consumer mode : String) (bound : BoundIdentity) : Except AuthError AuthContext :=
  match AgentRole.ofValue bound.role with
  | none => .error .valueError
  | some role => .ok (fullContext (consumer ++ ":" ++ bound.consumer) mode role bound.workspaceId bound.userId
      bound.behaviorSubjectId (boundCapabilities bound) true)

/-- `get_auth_context` of Full -/
def fullAuthContext (settings : AuthSettings) (credential : Credential) (headers : Headers) :
    Except AuthError AuthContext := do
  let role := (headers.role.bind AgentRole.ofValue).getD .user
  let consumerName := headerOr headers.consumer "user"
  let workspaceId := headerOr headers.workspace "personal"
  let userId := headerOr headers.user consumerName
  let behaviorSubjectId := headerOr headers.behaviorSubject userId
  if invalidSubject behaviorSubjectId then .error (.http 400 "invalid X-TCE-Behavior-Subject")
  else match ← fullChannel host settings credential with
  | .mtls subject =>
    settle host settings (.mtls subject) headers "asserted identity conflicts with server-bound mTLS claim"
      "mTLS identity is not bound to a server claim" (fullBound "mtls" "mtls")
      (.ok (fullContext ("mtls:" ++ consumerName ++ ":" ++ subject) "mtls" role workspaceId userId behaviorSubjectId []
        false))
  | .hostCapture token =>
    -- the claim is a user's whatever its role, and a header has no role to assert
    let hostConsumer := headerOr headers.consumer "host-capture"
    let hostUserId := headerOr headers.user hostConsumer
    settle host settings (.hostCapture token) { headers with role := none }
      "asserted identity conflicts with server-bound host-capture claim"
      "host capture token is not bound to a server claim"
      (fun bound => .ok (fullContext ("host:" ++ bound.consumer) "bearer" .user bound.workspaceId bound.userId
        bound.behaviorSubjectId (boundCapabilities bound ++ [hostCaptureCapability]) true))
      (.ok (fullContext ("host:" ++ hostConsumer) "bearer" .user workspaceId hostUserId
        (headerOr headers.behaviorSubject hostUserId) [hostCaptureCapability] true))
  | .bearer token =>
    settle host settings (.bearer token) headers "asserted identity conflicts with server-bound bearer claim"
      "bearer token is not bound to a server claim" (fullBound "bearer" "bearer")
      (.ok (fullContext ("bearer:" ++ consumerName) "bearer" role workspaceId userId behaviorSubjectId [] false))

/-! ### Lite -/

/-- What the credential of a request is good for in Lite. -/
def liteChannel (settings : AuthSettings) (credential : Credential) : Except AuthError Channel :=
  match ((credential.authorization.filter (· ≠ "")).bind (bearerToken host)).map strip with
  | none => .error (.http 401 invalidCredentials)
  | some token =>
    if token = "" then .error (.http 401 invalidCredentials)
    else if token ∈ settings.hostCaptureTokens then
      if token ∈ settings.apiTokens then
        .error (.http 403 "credential is configured as both api and host-capture token")
      else .ok (.hostCapture token)
    else if token ∈ settings.apiTokens then .ok (.bearer token)
    else .error (.http 401 invalidCredentials)

/-- The context of a claim in Lite: an unknown role is a server error. -/
def liteBound (bound : BoundIdentity) : Except AuthError AuthContext :=
  match AgentRole.ofValue bound.role with
  | none => .error (.http 500 "server identity claim has invalid role")
  | some role => .ok ⟨bound.consumer, none, role, bound.workspaceId, bound.userId, bound.behaviorSubjectId,
      boundCapabilities bound, true⟩

/-- `get_auth_context` of Lite -/
def liteAuthContext (settings : AuthSettings) (credential : Credential) (headers : Headers) :
    Except AuthError AuthContext := do
  let channel ← liteChannel host settings credential
  let workspaceId := headerOr headers.workspace "personal"
  let consumer := headerOr headers.consumer (match channel with
    | .hostCapture _ => "host-capture"
    | _ => "local-user")
  let userId := headerOr headers.user consumer
  let behaviorSubjectId := headerOr headers.behaviorSubject userId
  if invalidSubject behaviorSubjectId then .error (.http 400 "invalid X-TCE-Behavior-Subject")
  else match channel with
  | .hostCapture _ =>
    settle host settings channel headers "asserted identity conflicts with server-bound bearer claim"
      "host capture token is not bound to a server claim"
      (fun bound => .ok ⟨"host:" ++ bound.consumer, none, .user, bound.workspaceId, bound.userId,
        bound.behaviorSubjectId, boundCapabilities bound ++ [hostCaptureCapability], true⟩)
      (.ok ⟨"host:" ++ consumer, none, .user, workspaceId, userId, behaviorSubjectId, [hostCaptureCapability], true⟩)
  | _ =>
    settle host settings channel headers "asserted identity conflicts with server-bound bearer claim"
      "bearer token is not bound to a server claim"
      liteBound
      (match AgentRole.ofValue (orElse (headers.role.getD "") "user") with
        | none => .error (.http 400 "invalid X-TCE-Role")
        | some role => .ok ⟨consumer, none, role, workspaceId, userId, behaviorSubjectId, [], false⟩)

/-- The server a request is sent to. -/
inductive Edition
  | full | lite
deriving DecidableEq, Repr

def Edition.channel : Edition → AuthSettings → Credential → Except AuthError Channel
  | .full => fullChannel host
  | .lite => liteChannel host

/-- `get_auth_context` -/
def Edition.authContext : Edition → AuthSettings → Credential → Headers → Except AuthError AuthContext
  | .full => fullAuthContext host
  | .lite => liteAuthContext host

/-! ### What headers cannot do -/

variable {host} {settings : AuthSettings} {credential : Credential} {headers : Headers} {context : AuthContext}

theorem settle_ok {channel : Channel} {asserted : Headers} {conflict missing : String}
    {bound : BoundIdentity → Except AuthError AuthContext} {unbound : Except AuthError AuthContext}
    (h : settle host settings channel asserted conflict missing bound unbound = .ok context) :
    (∃ identity, channel.claim host settings = some identity ∧ bound identity = .ok context) ∨
      channel.claim host settings = none ∧ settings.enforced host = false ∧ unbound = .ok context := by
  rw [settle] at h
  cases hclaim : channel.claim host settings with
  | some identity =>
    simp only [hclaim] at h
    split_ifs at h
    exact Or.inl ⟨identity, rfl, h⟩
  | none =>
    simp only [hclaim] at h
    split_ifs at h with henforced
    exact Or.inr ⟨rfl, Bool.eq_false_of_not_eq_true henforced, h⟩

/-- What a credential without a claim is good for: its capabilities, and whether the identity is verified. -/
def Channel.standing : Channel → List String × Bool
  | .hostCapture _ => ([hostCaptureCapability], true)
  | .mtls _ => ([], false)
  | .bearer _ => ([], false)

/-- The tokens of a server do for one thing each. -/
def Channel.Listed (settings : AuthSettings) : Channel → Prop
  | .mtls _ => True
  | .hostCapture token => token ∈ settings.hostCaptureTokens ∧ token ∉ settings.apiTokens
  | .bearer token => token ∈ settings.apiTokens ∧ token ∉ settings.hostCaptureTokens

/-- Only a user may attest. -/
def Attested (context : AuthContext) : Prop :=
  hostCaptureCapability ∈ context.capabilities → context.role = .user ∧ context.identityVerified = true

/-- An accepted request is who the claim of its credential says, or has the standing of a credential without one. -/
structure Settled (host : Host) (settings : AuthSettings)
    (granted : Channel → BoundIdentity → Except AuthError AuthContext) (channel : Channel) (context : AuthContext) : Prop where
  identity : (∃ identity, channel.claim host settings = some identity ∧ granted channel identity = .ok context) ∨
    channel.claim host settings = none ∧ settings.enforced host = false ∧
      (context.capabilities, context.identityVerified) = channel.standing
  attested : Attested context

/-- The context of a claim in Full, by what the credential is. -/
def Channel.fullGranted (channel : Channel) (bound : BoundIdentity) : Except AuthError AuthContext :=
  match channel with
  | .mtls _ => fullBound "mtls" "mtls" bound
  | .hostCapture _ => .ok (fullContext ("host:" ++ bound.consumer) "bearer" .user bound.workspaceId bound.userId
      bound.behaviorSubjectId (boundCapabilities bound ++ [hostCaptureCapability]) true)
  | .bearer _ => fullBound "bearer" "bearer" bound

/-- A claim grants host capture to users only. -/
theorem mem_boundCapabilities {bound : BoundIdentity} (h : hostCaptureCapability ∈ boundCapabilities bound) :
    bound.role = "user" ∧ hostCaptureCapability ∈ bound.capabilities := by
  rw [boundCapabilities] at h
  split_ifs at h with hrole
  · cases h
  · exact ⟨not_not.mp hrole, List.mem_of_mem_filter h⟩

theorem boundCapabilities_user {bound : BoundIdentity} (h : hostCaptureCapability ∈ boundCapabilities bound) :
    AgentRole.ofValue bound.role = some .user := by
  rw [(mem_boundCapabilities h).1]
  rfl

theorem fullBound_attested {consumer mode : String} {bound : BoundIdentity}
    (h : fullBound consumer mode bound = .ok context) : Attested context := by
  rw [fullBound] at h
  cases hrole : AgentRole.ofValue bound.role with
  | none =>
    rw [hrole] at h
    cases h
  | some role =>
    rw [hrole] at h
    obtain rfl := Except.ok.inj h
    intro hcapture
    exact ⟨Option.some.inj (hrole.symm.trans (boundCapabilities_user hcapture)), rfl⟩

theorem fullAuthContext_settled (h : fullAuthContext host settings credential headers = .ok context) :
    ∃ channel, fullChannel host settings credential = .ok channel ∧
      Settled host settings Channel.fullGranted channel context := by
  rw [fullAuthContext] at h
  simp only at h
  split_ifs at h
  obtain ⟨channel, hchannel, h⟩ := bind_ok h
  refine ⟨channel, hchannel, ?_⟩
  cases channel with
  | mtls subject =>
    obtain ⟨identity, hclaim, hbound⟩ | ⟨hclaim, henforced, hunbound⟩ := settle_ok h
    · exact ⟨Or.inl ⟨identity, hclaim, hbound⟩, fullBound_attested hbound⟩
    · obtain rfl := Except.ok.inj hunbound
      exact ⟨Or.inr ⟨hclaim, henforced, rfl⟩, fun hcapture => absurd hcapture List.not_mem_nil⟩
  | hostCapture token =>
    obtain ⟨identity, hclaim, hbound⟩ | ⟨hclaim, henforced, hunbound⟩ := settle_ok h
    · refine ⟨Or.inl ⟨identity, hclaim, hbound⟩, fun _ => ?_⟩
      obtain rfl := Except.ok.inj hbound
      exact ⟨rfl, rfl⟩
    · obtain rfl := Except.ok.inj hunbound
      exact ⟨Or.inr ⟨hclaim, henforced, rfl⟩, fun _ => ⟨rfl, rfl⟩⟩
  | bearer token =>
    obtain ⟨identity, hclaim, hbound⟩ | ⟨hclaim, henforced, hunbound⟩ := settle_ok h
    · exact ⟨Or.inl ⟨identity, hclaim, hbound⟩, fullBound_attested hbound⟩
    · obtain rfl := Except.ok.inj hunbound
      exact ⟨Or.inr ⟨hclaim, henforced, rfl⟩, fun hcapture => absurd hcapture List.not_mem_nil⟩

/-- The context of a claim in Lite, by what the credential is. -/
def Channel.liteGranted (channel : Channel) (bound : BoundIdentity) : Except AuthError AuthContext :=
  match channel with
  | .hostCapture _ => .ok ⟨"host:" ++ bound.consumer, none, .user, bound.workspaceId, bound.userId,
      bound.behaviorSubjectId, boundCapabilities bound ++ [hostCaptureCapability], true⟩
  | _ => liteBound bound

def Edition.granted : Edition → Channel → BoundIdentity → Except AuthError AuthContext
  | .full => Channel.fullGranted
  | .lite => Channel.liteGranted

theorem liteChannel_bearer {channel : Channel} (h : liteChannel host settings credential = .ok channel) :
    ∃ token, channel = .hostCapture token ∨ channel = .bearer token := by
  rw [liteChannel] at h
  cases htoken : ((credential.authorization.filter (· ≠ "")).bind (bearerToken host)).map strip with
  | none =>
    rw [htoken] at h
    cases h
  | some token =>
    rw [htoken] at h
    simp only at h
    split_ifs at h <;> cases h
    · exact ⟨token, Or.inl rfl⟩
    · exact ⟨token, Or.inr rfl⟩

theorem liteAuthContext_settled (h : liteAuthContext host settings credential headers = .ok context) :
    ∃ channel, liteChannel host settings credential = .ok channel ∧
      Settled host settings Channel.liteGranted channel context := by
  obtain ⟨channel, hchannel, h⟩ := bind_ok h
  refine ⟨channel, hchannel, ?_⟩
  simp only at h
  split_ifs at h
  obtain ⟨token, rfl | rfl⟩ := liteChannel_bearer hchannel
  · obtain ⟨identity, hclaim, hbound⟩ | ⟨hclaim, henforced, hunbound⟩ := settle_ok h
    · refine ⟨Or.inl ⟨identity, hclaim, hbound⟩, fun _ => ?_⟩
      obtain rfl := Except.ok.inj hbound
      exact ⟨rfl, rfl⟩
    · obtain rfl := Except.ok.inj hunbound
      exact ⟨Or.inr ⟨hclaim, henforced, rfl⟩, fun _ => ⟨rfl, rfl⟩⟩
  · obtain ⟨identity, hclaim, hbound⟩ | ⟨hclaim, henforced, hunbound⟩ := settle_ok h
    · refine ⟨Or.inl ⟨identity, hclaim, hbound⟩, fun hcapture => ?_⟩
      rw [liteBound] at hbound
      cases hrole : AgentRole.ofValue identity.role with
      | none =>
        rw [hrole] at hbound
        cases hbound
      | some role =>
        rw [hrole] at hbound
        obtain rfl := Except.ok.inj hbound
        exact ⟨Option.some.inj (hrole.symm.trans (boundCapabilities_user hcapture)), rfl⟩
    · cases hrole : AgentRole.ofValue (orElse (headers.role.getD "") "user") with
      | none =>
        rw [hrole] at hunbound
        cases hunbound
      | some role =>
        rw [hrole] at hunbound
        obtain rfl := Except.ok.inj hunbound
        exact ⟨Or.inr ⟨hclaim, henforced, rfl⟩, fun hcapture => absurd hcapture List.not_mem_nil⟩

/-- Two accepted requests of one credential. -/
theorem Settled.agree {granted : Channel → BoundIdentity → Except AuthError AuthContext} {channel : Channel}
    {context' : AuthContext} (h : Settled host settings granted channel context)
    (h' : Settled host settings granted channel context') :
    context.capabilities = context'.capabilities ∧ context.identityVerified = context'.identityVerified ∧
      (settings.enforced host = true → context = context') := by
  obtain ⟨identity, hclaim, hgranted⟩ | ⟨hnone, henforced, hstanding⟩ := h.identity
  · obtain ⟨identity', hclaim', hgranted'⟩ | ⟨hnone', -, -⟩ := h'.identity
    · obtain rfl := Option.some.inj (hclaim.symm.trans hclaim')
      obtain rfl := Except.ok.inj (hgranted.symm.trans hgranted')
      exact ⟨rfl, rfl, fun _ => rfl⟩
    · rw [hclaim] at hnone'
      cases hnone'
  · obtain ⟨identity', hclaim', -⟩ | ⟨-, -, hstanding'⟩ := h'.identity
    · rw [hnone] at hclaim'
      cases hclaim'
    · obtain ⟨hcapabilities, hverified⟩ := Prod.mk.inj (hstanding.trans hstanding'.symm)
      refine ⟨hcapabilities, hverified, fun henforce => ?_⟩
      rw [henforced] at henforce
      cases henforce

theorem Edition.settled {edition : Edition} (h : edition.authContext host settings credential headers = .ok context) :
    ∃ channel, edition.channel host settings credential = .ok channel ∧
      Settled host settings edition.granted channel context := by
  cases edition with
  | full =>
    rw [Edition.authContext] at h
    exact fullAuthContext_settled h
  | lite =>
    rw [Edition.authContext] at h
    exact liteAuthContext_settled h

/-- **No header makes a request more than its credential is.** Whatever the headers of two accepted requests of one
credential say, they may attest the same and are verified alike; where claims are enforced they are the same caller. -/
theorem identity_from_credential (edition : Edition) (host : Host) (settings : AuthSettings) (credential : Credential)
    (headers headers' : Headers) (context context' : AuthContext)
    (h : edition.authContext host settings credential headers = .ok context)
    (h' : edition.authContext host settings credential headers' = .ok context') :
    context.capabilities = context'.capabilities ∧ context.identityVerified = context'.identityVerified ∧
      (settings.enforced host = true → context = context') := by
  obtain ⟨channel, hchannel, hsettled⟩ := Edition.settled h
  obtain ⟨channel', hchannel', hsettled'⟩ := Edition.settled h'
  obtain rfl := Except.ok.inj (hchannel.symm.trans hchannel')
  exact hsettled.agree hsettled'

/-- One claim, whatever the setting says. -/
def sampleHost : Host := {asciiHost [] [] with
  loads := fun _ => some (.obj [("bearer:t", .obj [("consumer", .str "ana"), ("role", .str "user"),
    ("capabilities", .arr [.str "host_capture"])])]) }

def sampleSettings (mode : String) : AuthSettings := ⟨"dual", false, ["t", "u"], ["h"], "claims", mode⟩

/-- A user by the headers, and an executor. -/
def sampleContexts : AuthContext × AuthContext :=
  (⟨"ana", none, .user, "personal", "ana", "ana", [], false⟩, ⟨"bo", none, .executor, "team", "bo", "bo", [], false⟩)

theorem identity_from_credential_example :
    Edition.lite.authContext sampleHost (sampleSettings "compat") ⟨some "Bearer u", none⟩
        ⟨some "ana", some "user", none, none, none⟩ = .ok sampleContexts.1 ∧
      Edition.lite.authContext sampleHost (sampleSettings "compat") ⟨some "Bearer u", none⟩
        ⟨some "bo", some "executor", some "team", none, none⟩ = .ok sampleContexts.2 ∧
      sampleContexts.1.capabilities = sampleContexts.2.capabilities := by
  have huser : Edition.lite.authContext sampleHost (sampleSettings "compat") ⟨some "Bearer u", none⟩
      ⟨some "ana", some "user", none, none, none⟩ = .ok sampleContexts.1 := by decide +kernel
  have hexecutor : Edition.lite.authContext sampleHost (sampleSettings "compat") ⟨some "Bearer u", none⟩
      ⟨some "bo", some "executor", some "team", none, none⟩ = .ok sampleContexts.2 := by decide +kernel
  exact ⟨huser, hexecutor, (identity_from_credential _ _ _ _ _ _ _ _ huser hexecutor).1⟩

/-- The claim of a credential that is not a host capture token grants what the context may. -/
theorem fullGranted_capabilities {channel : Channel} {bound : BoundIdentity}
    (h : channel.fullGranted bound = .ok context) (hchannel : ∀ token, channel ≠ .hostCapture token) :
    context.capabilities = boundCapabilities bound := by
  have hbound : ∀ consumer mode, fullBound consumer mode bound = .ok context →
      context.capabilities = boundCapabilities bound := by
    intro consumer mode hok
    rw [fullBound] at hok
    cases hrole : AgentRole.ofValue bound.role with
    | none =>
      rw [hrole] at hok
      cases hok
    | some role =>
      rw [hrole] at hok
      obtain rfl := Except.ok.inj hok
      rfl
  cases channel with
  | mtls subject => exact hbound _ _ h
  | hostCapture token => exact absurd rfl (hchannel token)
  | bearer token => exact hbound _ _ h

theorem liteGranted_capabilities {channel : Channel} {bound : BoundIdentity}
    (h : channel.liteGranted bound = .ok context) (hchannel : ∀ token, channel ≠ .hostCapture token) :
    context.capabilities = boundCapabilities bound := by
  have hbound : liteBound bound = .ok context := by
    cases channel with
    | mtls subject => exact h
    | hostCapture token => exact absurd rfl (hchannel token)
    | bearer token => exact h
  rw [liteBound] at hbound
  cases hrole : AgentRole.ofValue bound.role with
  | none =>
    rw [hrole] at hbound
    cases hbound
  | some role =>
    rw [hrole] at hbound
    obtain rfl := Except.ok.inj hbound
    rfl

/-- Where host capture is from. -/
theorem Settled.capture {granted : Channel → BoundIdentity → Except AuthError AuthContext} {channel : Channel}
    (h : Settled host settings granted channel context)
    (hgranted : ∀ bound, granted channel bound = .ok context → (∀ token, channel ≠ .hostCapture token) →
      context.capabilities = boundCapabilities bound) (hcapture : hostCaptureCapability ∈ context.capabilities) :
    (∃ token, channel = .hostCapture token) ∨
      ∃ identity, channel.claim host settings = some identity ∧ identity.role = "user" ∧
        hostCaptureCapability ∈ identity.capabilities := by
  by_cases hchannel : ∃ token, channel = .hostCapture token
  · exact Or.inl hchannel
  · have hother : ∀ token, channel ≠ .hostCapture token := fun token heq => hchannel ⟨token, heq⟩
    obtain ⟨identity, hclaim, hok⟩ | ⟨-, -, hstanding⟩ := h.identity
    · rw [hgranted identity hok hother] at hcapture
      exact Or.inr ⟨identity, hclaim, mem_boundCapabilities hcapture⟩
    · cases channel with
      | hostCapture token => exact absurd rfl (hother token)
      | mtls subject =>
        rw [(Prod.mk.inj hstanding).1] at hcapture
        cases hcapture
      | bearer token =>
        rw [(Prod.mk.inj hstanding).1] at hcapture
        cases hcapture

theorem fullChannel_listed {channel : Channel} (h : fullChannel host settings credential = .ok channel) :
    channel.Listed settings := by
  rw [fullChannel] at h
  simp only at h
  split at h
  · cases h
    trivial
  · split at h
    · cases h
    · split at h
      · cases h
      · split_ifs at h with hhost happ happ
        · cases h
          exact ⟨hhost, happ⟩
        · cases h
          exact ⟨happ, hhost⟩

theorem liteChannel_listed {channel : Channel} (h : liteChannel host settings credential = .ok channel) :
    channel.Listed settings := by
  rw [liteChannel] at h
  split at h
  · cases h
  · split_ifs at h with hempty hhost happ happ
    · cases h
      exact ⟨hhost, happ⟩
    · cases h
      exact ⟨happ, hhost⟩

/-- **Host capture is for verified users**: those with a host capture token, which is never one of the api's, and those
whose claim is a user's and grants it. -/
theorem host_capture_for_users (edition : Edition) (host : Host) (settings : AuthSettings) (credential : Credential)
    (headers : Headers) (context : AuthContext)
    (h : edition.authContext host settings credential headers = .ok context)
    (hcapture : hostCaptureCapability ∈ context.capabilities) :
    context.role = .user ∧ context.identityVerified = true ∧
      ∃ channel, edition.channel host settings credential = .ok channel ∧ channel.Listed settings ∧
        ((∃ token, channel = .hostCapture token) ∨
          ∃ identity, channel.claim host settings = some identity ∧ identity.role = "user" ∧
            hostCaptureCapability ∈ identity.capabilities) := by
  obtain ⟨channel, hchannel, hsettled⟩ := Edition.settled h
  obtain ⟨hrole, hverified⟩ := hsettled.attested hcapture
  refine ⟨hrole, hverified, channel, hchannel, ?_, ?_⟩
  · cases edition with
    | full => exact fullChannel_listed hchannel
    | lite => exact liteChannel_listed hchannel
  · cases edition with
    | full => exact hsettled.capture (fun _ => fullGranted_capabilities) hcapture
    | lite => exact hsettled.capture (fun _ => liteGranted_capabilities) hcapture

theorem host_capture_for_users_example :
    ∃ channel, Edition.full.channel sampleHost (sampleSettings "compat") ⟨some "Bearer h", none⟩ = .ok channel ∧
      channel.Listed (sampleSettings "compat") := by
  have hcontext : Edition.full.authContext sampleHost (sampleSettings "compat") ⟨some "Bearer h", none⟩
      ⟨some "hook", some "executor", none, none, none⟩ =
        .ok ⟨"host:hook", some "bearer", .user, "personal", "hook", "hook", ["host_capture"], true⟩ := by
    decide +kernel
  obtain ⟨-, -, channel, hchannel, hlisted, -⟩ := host_capture_for_users _ _ _ _ _ _ hcontext List.mem_cons_self
  exact ⟨channel, hchannel, hlisted⟩

end OpenTimeline.Identity
