import Exetron.Auth.Grants

/-!
# Tokens

`AuthService`: login, refresh and logout. Each is a few statements on their own, without a
transaction around them. Signing, hashing and the comparison of passwords are parameters.
-/

namespace Exetron.Auth

open Lib Call

structure JwtClaims where
  sub : Id
  tenantId : Option Id
  scope : AppScope
  (roleIds storeIds : List Id)
  deriving DecidableEq

structure RefreshPayload where
  (sub sid : Id)
  typ : String

structure AuthEnv where
  now : Instant
  comparePassword : (password hash : String) → Bool
  verifyJwt : String → Except ApiException RefreshPayload
  signAccess : JwtClaims → String
  signRefresh : RefreshPayload → String
  hashToken : String → String
  (accessTtl refreshTtl : String)

/-- An access token carries its claims. -/
structure AccessToken where
  claims : JwtClaims
  signature : String

structure AuthTokensResponse where
  accessToken : AccessToken
  (refreshToken expiresIn refreshExpiresIn : String)

/-- `/^(\d+)([mhd])$/`, and thirty days for any other text. -/
def resolveExpiry (now : Instant) (ttl : String) : Instant :=
  let lifetime : Option Nat :=
    match ttl.toList.reverse with
    | [] | [_] => none
    | unit :: digits =>
      let amount := Nat.ofDigitChars 10 digits.reverse 0
      if ¬digits.all Char.isDigit then none
      else if unit = 'm' then some (amount * 60000)
      else if unit = 'h' then some (amount * 3600000)
      else if unit = 'd' then some (amount * 86400000)
      else none
  now + lifetime.getD (1000 * 60 * 60 * 24 * 30)

def judgeLogin (env : AuthEnv) (email password : String) (s : AuthStore) :
    Except ApiException UserDto := do
  let user ← required (s.users.find? fun user => user.email = email)
    (.unauthorized "Invalid credentials.")
  rejectIf (¬env.comparePassword password user.passwordHash) (.unauthorized "Invalid credentials.")
  rejectIf (user.status ≠ .active) (.forbidden "User account is not active.")
  pure (mapUser user s)

def verifyRefreshToken (env : AuthEnv) (refreshToken : String) :
    Except ApiException RefreshPayload := do
  let payload ← env.verifyJwt refreshToken
  rejectIf (payload.typ ≠ "refresh") (.unauthorized "Invalid refresh token.")
  pure payload

def sessionOf (tokenHash : String) (s : AuthStore) : Option RefreshSession :=
  s.refreshSessions.find? fun session => session.tokenHash = tokenHash

/-- The session of a token, when it may be refreshed, and its user. The user's status is not
looked at. -/
def judgeRefresh (env : AuthEnv) (payload : RefreshPayload) (refreshToken : String)
    (s : AuthStore) : Except ApiException (RefreshSession × UserDto) := do
  let session ← required (sessionOf (env.hashToken refreshToken) s)
    (.unauthorized "Refresh session is invalid.")
  rejectIf (session.status ≠ .active ∨ session.expiresAt < env.now ∨ session.userId ≠ payload.sub)
    (.unauthorized "Refresh session is invalid.")
  let user ← required (users.findUnique session.userId s) .typeError
  pure (session, mapUser user s)

def revoke (now : Instant) (session : RefreshSession) : RefreshSession :=
  { session with status := .revoked, revokedAt := some now, lastUsedAt := some now }

def claimsOf (loaded : UserDto) : JwtClaims :=
  { sub := loaded.user.id
    tenantId := loaded.user.tenantId
    scope := if loaded.user.isPlatformAdmin then .platformAdmin else .tenantMember
    roleIds := loaded.roleIds
    storeIds := loaded.storeIds }

def newTokens (env : AuthEnv) (sessionId : Id) (loaded : UserDto) : AuthTokensResponse :=
  { accessToken := ⟨claimsOf loaded, env.signAccess (claimsOf loaded)⟩
    refreshToken := env.signRefresh ⟨loaded.user.id, sessionId, "refresh"⟩
    expiresIn := env.accessTtl
    refreshExpiresIn := env.refreshTtl }

def newSession (env : AuthEnv) (sessionId : Id) (loaded : UserDto) : RefreshSession :=
  { id := sessionId
    userId := loaded.user.id
    tokenHash := env.hashToken (newTokens env sessionId loaded).refreshToken
    status := .active
    expiresAt := resolveExpiry env.now env.refreshTtl
    lastUsedAt := none
    revokedAt := none }

def createSession (env : AuthEnv) (loaded : UserDto) : AuthTransaction AuthTokensResponse := do
  let sessionId ← Tx.read fun s => .ok s.nextId
  Tx.write fun s => { s with nextId := s.nextId + 1 }
  let session := newSession env sessionId loaded
  Tx.read fun s => rejectIf (session.tokenHash ∈ s.refreshSessions.map RefreshSession.tokenHash)
    (.uniqueConstraint "RefreshSession")
  let _ ← refreshSessions.create session
  pure (newTokens env sessionId loaded)

def issueTokens (env : AuthEnv) (loaded : UserDto) : AuthCall AuthTokensResponse :=
  Call.transact (createSession env loaded)

def login (env : AuthEnv) (email password : String) : AuthCall AuthTokensResponse := do
  let loaded ← Call.transact (Tx.read (judgeLogin env email password))
  let _ ← Call.transact (users.update loaded.user.id fun row =>
    { row with lastLoginAt := some env.now })
  issueTokens env loaded

def refresh (env : AuthEnv) (refreshToken : String) : AuthCall AuthTokensResponse := do
  let payload ← Call.transact (Tx.lift (verifyRefreshToken env refreshToken))
  let (session, loaded) ← Call.transact (Tx.read (judgeRefresh env payload refreshToken))
  let _ ← Call.transact (refreshSessions.update session.id (revoke env.now))
  issueTokens env loaded

def revokeSessions (now : Instant) (tokenHash : String) (s : AuthStore) : AuthStore :=
  let open_ (session : RefreshSession) : Bool :=
    session.tokenHash = tokenHash ∧ session.status = .active
  let revoked (session : RefreshSession) : RefreshSession :=
    { session with status := .revoked, revokedAt := some now }
  { s with refreshSessions := Rows.updateWhere open_ revoked s.refreshSessions }

def logout (env : AuthEnv) (refreshToken : String) : AuthCall Unit :=
  Call.transact (Tx.write (revokeSessions env.now (env.hashToken refreshToken)))

inductive AuthRequest where
  | login (env : AuthEnv) (email password : String)
  | refresh (env : AuthEnv) (refreshToken : String)
  | logout (env : AuthEnv) (refreshToken : String)
  | user (request : UserRequest)

/-- The request with the tokens it yields, if any. -/
def AuthRequest.perform : AuthRequest → AuthCall (Option AuthTokensResponse)
  | .login env email password => do
    let tokens ← Auth.login env email password
    pure (some tokens)
  | .refresh env refreshToken => do
    let tokens ← Auth.refresh env refreshToken
    pure (some tokens)
  | .logout env refreshToken => do
    Auth.logout env refreshToken
    pure none
  | .user request => do
    let _ ← Auth.perform request
    pure none

def authStep (s : AuthStore) (r : AuthRequest) : AuthStore := (r.perform.exec s).2

/-- The user for whom a request yields tokens. -/
def issuedTo (s : AuthStore) (r : AuthRequest) : Option Id :=
  match (r.perform.exec s).1 with
  | .ok (some tokens) => some tokens.accessToken.claims.sub
  | _ => none

def statusOf (userId : Id) (s : AuthStore) : Option UserStatus :=
  (users.findUnique userId s).map User.status

def TokensForActive (s : AuthStore) (r : AuthRequest) : Prop :=
  ∀ userId ∈ issuedTo s r, statusOf userId s = some .active

def OwnerActive (s : AuthStore) : AuthRequest → Prop
  | .refresh env refreshToken =>
    ∀ session ∈ sessionOf (env.hashToken refreshToken) s,
      session.status = .active → env.now ≤ session.expiresAt →
        statusOf session.userId s = some .active
  | _ => True

section
variable {s t : AuthStore} {env : AuthEnv} {email password refreshToken : String}
  {tokens : AuthTokensResponse}

theorem judgeLogin_ok {loaded : UserDto} (h : judgeLogin env email password s = .ok loaded) :
    loaded.user ∈ s.users ∧ loaded.user.status = .active := by
  simp only [judgeLogin, except_bind_ok_iff, required_ok_iff, rejectIf_ok_iff, not_not,
    except_pure_ok_iff] at h
  obtain ⟨user, found, _, _, _, active, rfl⟩ := h
  exact ⟨List.mem_of_find?_eq_some found, active⟩

theorem judgeRefresh_ok {payload : RefreshPayload} {session : RefreshSession} {loaded : UserDto}
    (h : judgeRefresh env payload refreshToken s = .ok (session, loaded)) :
    sessionOf (env.hashToken refreshToken) s = some session ∧ session.status = .active ∧
      env.now ≤ session.expiresAt ∧ session.userId = payload.sub ∧
      users.findUnique session.userId s = some loaded.user := by
  simp only [judgeRefresh, except_bind_ok_iff, required_ok_iff, rejectIf_ok_iff, not_or,
    not_not, not_lt, except_pure_ok_iff, Prod.mk.injEq] at h
  obtain ⟨session, found, _, ⟨active, lasts, own⟩, user, owner, rfl, rfl⟩ := h
  exact ⟨found, active, lasts, own, owner⟩

theorem createSession_ok {loaded : UserDto} (h : createSession env loaded s = .ok (tokens, t)) :
    tokens.accessToken.claims.sub = loaded.user.id ∧
      t = { s with
        nextId := s.nextId + 1
        refreshSessions := s.refreshSessions ++ [newSession env s.nextId loaded] } := by
  simp only [createSession, Tx.bind_ok_iff, Tx.read_ok_iff, Tx.write_ok_iff, Table.create_ok_iff,
    Tx.pure_ok_iff] at h
  obtain ⟨_, _, ⟨fresh, rfl⟩, _, _, rfl, _, _, ⟨_, rfl⟩, _, _, ⟨rfl, rfl⟩, rfl, rfl⟩ := h
  obtain rfl := Except.ok.inj fresh
  exact ⟨rfl, rfl⟩

theorem login_ok (h : (login env email password).exec s = (.ok tokens, t)) :
    ∃ user ∈ s.users, user.status = .active ∧ tokens.accessToken.claims.sub = user.id := by
  simp only [login, issueTokens, exec_bind_ok_iff, transact_ok_iff, Tx.read_ok_iff] at h
  obtain ⟨loaded, _, ⟨judged, rfl⟩, _, _, _, issued⟩ := h
  obtain ⟨stored, active⟩ := judgeLogin_ok judged
  exact ⟨loaded.user, stored, active, (createSession_ok issued).1⟩

theorem refresh_ok (h : (refresh env refreshToken).exec s = (.ok tokens, t)) :
    ∃ session, sessionOf (env.hashToken refreshToken) s = some session ∧
      session.status = .active ∧ env.now ≤ session.expiresAt ∧
      tokens.accessToken.claims.sub = session.userId := by
  simp only [refresh, issueTokens, exec_bind_ok_iff, transact_ok_iff, Tx.read_ok_iff,
    Tx.lift_ok_iff] at h
  obtain ⟨payload, _, ⟨_, rfl⟩, ⟨session, loaded⟩, _, ⟨judged, rfl⟩, _, _, _, issued⟩ := h
  obtain ⟨found, active, lasts, _, owner⟩ := judgeRefresh_ok judged
  exact ⟨session, found, active, lasts,
    (createSession_ok issued).1.trans (Table.findUnique_mem owner).2⟩

end

section
variable {s : AuthStore} {r : AuthRequest}

theorem issuedTo_eq_some {userId : Id} (h : issuedTo s r = some userId) :
    ∃ tokens t, r.perform.exec s = (.ok (some tokens), t) ∧
      tokens.accessToken.claims.sub = userId := by
  unfold issuedTo at h
  split at h
  · rename_i tokens answered
    exact ⟨tokens, _, Prod.ext answered rfl, Option.some.inj h⟩
  · cases h

theorem tokens_for_active (unique : (s.users.map User.id).Nodup) (owner : OwnerActive s r) :
    TokensForActive s r := by
  intro userId issued
  obtain ⟨tokens, t, answered, rfl⟩ := issuedTo_eq_some issued
  cases r with
  | login env email password =>
    obtain ⟨_, _, h, done⟩ := exec_bind_ok_iff.mp answered
    obtain ⟨same, -⟩ := exec_pure_ok_iff.mp done
    obtain rfl := Option.some.inj same
    obtain ⟨user, stored, active, is⟩ := login_ok h
    have found : users.findUnique user.id s = some user := Rows.find_of_mem unique stored
    rw [statusOf, is, found, Option.map_some, active]
  | refresh env refreshToken =>
    obtain ⟨_, _, h, done⟩ := exec_bind_ok_iff.mp answered
    obtain ⟨same, -⟩ := exec_pure_ok_iff.mp done
    obtain rfl := Option.some.inj same
    obtain ⟨session, found, active, lasts, is⟩ := refresh_ok h
    rw [is]
    exact owner session found active lasts
  | logout env refreshToken | user request =>
    obtain ⟨_, _, _, done⟩ := exec_bind_ok_iff.mp answered
    cases (exec_pure_ok_iff.mp done).1

end

def KeysKept (s t : AuthStore) : Prop := UserKeys s → UserKeys t

theorem keysKept_trans (s t u : AuthStore) (hst : KeysKept s t) (htu : KeysKept t u) :
    KeysKept s u := htu ∘ hst

section
variable {s t : AuthStore}

theorem keysKept_sessions {n : Id} {sessions : List RefreshSession} (later : s.nextId ≤ n) :
    KeysKept s { s with nextId := n, refreshSessions := sessions } := fun keys =>
  { users := keys.users
    old := fun user listed => Nat.lt_of_lt_of_le (keys.old user listed) later
    roleLinks := fun link listed => Nat.lt_of_lt_of_le (keys.roleLinks link listed) later
    storeLinks := fun link listed => Nat.lt_of_lt_of_le (keys.storeLinks link listed) later }

theorem keysKept_users {userId : Id} {f : User → User} (keeps : ∀ user, (f user).id = user.id) :
    KeysKept s { s with users := Rows.modify User.id userId f s.users } := by
  intro keys
  refine ⟨?_, fun user listed => ?_, keys.roleLinks, keys.storeLinks⟩
  · show ((Rows.modify User.id userId f s.users).map User.id).Nodup
    rw [Rows.map_modify keeps]
    exact keys.users
  · rcases Rows.mem_of_modify listed with old | ⟨user, old, _, rfl⟩
    · exact keys.old user old
    · rw [keeps user]
      exact keys.old user old

theorem issueTokens_keys (env : AuthEnv) (loaded : UserDto) (s : AuthStore) :
    KeysKept s ((issueTokens env loaded).exec s).2 := by
  refine transact_related (fun keys => keys) fun tokens t issued => ?_
  rw [(createSession_ok issued).2]
  exact keysKept_sessions (Nat.le_succ _)

theorem login_keys (env : AuthEnv) (email password : String) (s : AuthStore) :
    KeysKept s ((login env email password).exec s).2 := by
  refine bind_related keysKept_trans ?_ fun loaded t _ => ?_
  · refine transact_related (fun keys => keys) fun _ _ judged => ?_
    obtain ⟨-, rfl⟩ := Tx.read_ok_iff.mp judged
    exact fun keys => keys
  · refine bind_related keysKept_trans ?_ fun _ t _ => issueTokens_keys env loaded t
    refine transact_related (fun keys => keys) fun _ _ updated => ?_
    obtain ⟨_, _, _, rfl⟩ := Table.update_ok_iff.mp updated
    exact keysKept_users fun _ => rfl

theorem refresh_keys (env : AuthEnv) (refreshToken : String) (s : AuthStore) :
    KeysKept s ((refresh env refreshToken).exec s).2 := by
  refine bind_related keysKept_trans ?_ fun payload t _ => ?_
  · refine transact_related (fun keys => keys) fun _ _ verified => ?_
    obtain ⟨-, rfl⟩ := Tx.lift_ok_iff.mp verified
    exact fun keys => keys
  refine bind_related keysKept_trans ?_ fun found t _ => ?_
  · refine transact_related (fun keys => keys) fun _ _ judged => ?_
    obtain ⟨-, rfl⟩ := Tx.read_ok_iff.mp judged
    exact fun keys => keys
  · refine bind_related keysKept_trans ?_ fun _ t _ => issueTokens_keys env found.2 t
    refine transact_related (fun keys => keys) fun _ _ updated => ?_
    obtain ⟨_, _, _, rfl⟩ := Table.update_ok_iff.mp updated
    exact keysKept_sessions (s := t) (Nat.le_refl _)

theorem user_keys (r : UserRequest) (s : AuthStore) : KeysKept s (step s r) := by
  obtain ⟨hash, context, call⟩ := r
  cases call with
  | create dto =>
    refine transact_related (fun keys => keys) fun answer t body keys => ?_
    obtain ⟨tenantId, user, created, _⟩ := createUser_ok body
    exact userKeys_created keys created
  | update userId dto =>
    refine transact_related (fun keys => keys) fun answer t body keys => ?_
    obtain ⟨current, updated⟩ := updateUser_ok body
    exact userKeys_updated keys updated

theorem authStep_keys (r : AuthRequest) : KeysKept s (authStep s r) := by
  cases r with
  | login env email password =>
    exact bind_related keysKept_trans (login_keys env email password s) fun _ _ _ keys => keys
  | refresh env refreshToken =>
    exact bind_related keysKept_trans (refresh_keys env refreshToken s) fun _ _ _ keys => keys
  | logout env refreshToken =>
    refine bind_related keysKept_trans ?_ fun _ _ _ keys => keys
    exact keysKept_sessions (Nat.le_refl _)
  | user request =>
    exact bind_related keysKept_trans (user_keys request s) fun _ _ _ keys => keys

end

/-- In a run whose refreshes present the tokens of active users, or tokens that are no good,
nobody gets tokens who is not active at that moment. -/
theorem run_tokens_for_active {s : AuthStore} (keys : UserKeys s) {requests : List AuthRequest}
    (along : Trace.Along authStep OwnerActive s requests) :
    Trace.Along authStep TokensForActive s requests := by
  induction requests generalizing s with
  | nil => trivial
  | cons r requests ih =>
    exact ⟨tokens_for_active keys.users along.1, ih (authStep_keys r keys) along.2⟩

def authEnv (now : Instant) : AuthEnv where
  now := now
  comparePassword password hash := password = hash
  verifyJwt token :=
    if token = "refresh-30" then .ok ⟨20, 30, "refresh"⟩ else .error (.unauthorized "jwt malformed")
  signAccess _ := "signature"
  signRefresh payload := "refresh-" ++ toString payload.sid
  hashToken token := token
  accessTtl := "15m"
  refreshTtl := "30d"

def signIn : AuthRequest := .login (authEnv 1) "manager@first" ""

def dismiss : AuthRequest :=
  .user {
    hash := fun x => x
    context := {
      userId := "owner"
      tenantId := some 1
      scope := .tenantMember
      storeIds := []
      deviceId := none }
    call := .update 20 { status := some .disabled } }

def renew : AuthRequest := .refresh (authEnv 3) "refresh-30"

instance (s : AuthStore) (r : AuthRequest) : Decidable (OwnerActive s r) := by
  cases r <;> unfold OwnerActive <;> infer_instance

instance (s : AuthStore) (r : AuthRequest) : Decidable (TokensForActive s r) :=
  inferInstanceAs (Decidable (∀ userId ∈ issuedTo s r, statusOf userId s = some .active))

theorem renew_before_dismissal :
    Trace.Along authStep TokensForActive twoTenants [signIn, renew, dismiss] := by
  have along : Trace.Along authStep OwnerActive twoTenants [signIn, renew, dismiss] := by
    decide +kernel
  exact run_tokens_for_active twoTenants_keys along

/-- The token of a session that was opened before the dismissal is still good for new ones. -/
theorem renew_after_dismissal : ¬∀ (s : AuthStore) (requests : List AuthRequest), UserKeys s →
      Trace.Along authStep TokensForActive s requests := by
  intro always
  have along := always twoTenants [signIn, dismiss, renew] twoTenants_keys
  revert along
  decide +kernel

end Exetron.Auth
