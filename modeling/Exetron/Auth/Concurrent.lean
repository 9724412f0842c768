import Exetron.Auth.Tokens
import Exetron.Lib.Sessions

/-!
# One refresh token, presented at once

A refresh reads the session of its token, judges what it read, and revokes the session by its key
in a statement of its own; a logout revokes it in one statement. Two refreshes that both read the
session before either has revoked it both get tokens.
-/

namespace Exetron.Auth.Concurrent

open Lib Sessions Call

abbrev AuthProgram := Program AuthStore String (Except ApiException (Option AuthTokensResponse))

abbrev AuthSession := Session AuthStore String (Except ApiException (Option AuthTokensResponse))

abbrev AuthWorld (ι : Type) :=
  World ι AuthStore String (Except ApiException (Option AuthTokensResponse))

/-- A refresh draws the key of the session it will open. -/
inductive TokenCall where
  | refresh (sessionId : Id)
  | logout

structure TokenRequest where
  env : AuthEnv
  call : TokenCall

def revokeSession (now : Instant) (sessionId : Id) (s : AuthStore) : AuthStore :=
  { s with
    refreshSessions := Rows.modify RefreshSession.id sessionId (revoke now) s.refreshSessions }

def insertSession (session : RefreshSession) (s : AuthStore) : AuthStore :=
  { s with
    nextId := max s.nextId (session.id + 1)
    refreshSessions := s.refreshSessions ++ [session] }

def issueStatements (env : AuthEnv) (sessionId : Id) (loaded : UserDto) : AuthProgram :=
  .write [] (insertSession (newSession env sessionId loaded))
    (.commit (.stop (.ok (some (newTokens env sessionId loaded)))))

def refreshStatements (env : AuthEnv) (sessionId : Id) (refreshToken : String) : AuthProgram :=
  match verifyRefreshToken env refreshToken with
  | .error e => .stop (.error e)
  | .ok payload =>
    .read fun s =>
      match judgeRefresh env payload refreshToken s with
      | .error e => .stop (.error e)
      | .ok (session, loaded) =>
        .write [session.tokenHash] (revokeSession env.now session.id)
          (.commit (issueStatements env sessionId loaded))

def logoutStatements (env : AuthEnv) (refreshToken : String) : AuthProgram :=
  .write [env.hashToken refreshToken] (revokeSessions env.now (env.hashToken refreshToken))
    (.commit (.stop (.ok none)))

def statements (refreshToken : String) (r : TokenRequest) : AuthProgram :=
  match r.call with
  | .refresh sessionId => refreshStatements r.env sessionId refreshToken
  | .logout => logoutStatements r.env refreshToken

theorem createSession_free {env : AuthEnv} {loaded : UserDto} {s : AuthStore}
    (free : (newSession env s.nextId loaded).tokenHash ∉
      s.refreshSessions.map RefreshSession.tokenHash) :
    createSession env loaded s =
      .ok (newTokens env s.nextId loaded, insertSession (newSession env s.nextId loaded) s) := by
  simp only [createSession, Tx.bind_ok_iff, Tx.read_ok_iff, Tx.write_ok_iff, Table.create_ok_iff,
    Tx.pure_ok_iff]
  refine ⟨s.nextId, s, ⟨rfl, rfl⟩, (), _, rfl, (), _, ⟨rejectIf_ok_iff.mpr free, rfl⟩, _, _,
    ⟨rfl, rfl⟩, rfl, ?_⟩
  have later : max s.nextId ((newSession env s.nextId loaded).id + 1) = s.nextId + 1 :=
    Nat.max_eq_right (Nat.le_succ _)
  rw [insertSession, later]
  rfl

theorem refresh_alone {env : AuthEnv} {refreshToken : String} {s : AuthStore}
    (free : ∀ loaded, (newSession env s.nextId loaded).tokenHash ∉
      s.refreshSessions.map RefreshSession.tokenHash) :
    alone (refreshStatements env s.nextId refreshToken) s s =
      (((AuthRequest.refresh env refreshToken).perform.exec s).2,
        ((AuthRequest.refresh env refreshToken).perform.exec s).1) := by
  have performed : (AuthRequest.refresh env refreshToken).perform.exec s =
      match (Auth.refresh env refreshToken).exec s with
      | (.ok tokens, t) => (.ok (some tokens), t)
      | (.error e, t) => (.error e, t) := by
    rw [AuthRequest.perform, exec_bind]
    rcases (Auth.refresh env refreshToken).exec s with ⟨_ | _, _⟩ <;> rfl
  cases verified : verifyRefreshToken env refreshToken with
  | error e =>
    have failed : (Auth.refresh env refreshToken).exec s = (.error e, s) := by
      rw [Auth.refresh, exec_bind, transact_error]
      rw [Tx.lift, verified]
      rfl
    rw [performed, failed]
    simp only [refreshStatements, verified, alone]
  | ok payload =>
    have first : (transact (Tx.lift (verifyRefreshToken env refreshToken))).exec s =
        (.ok payload, s) := transact_ok (Tx.lift_ok_iff.mpr ⟨verified, rfl⟩)
    cases judged : judgeRefresh env payload refreshToken s with
    | error e =>
      have failed : (Auth.refresh env refreshToken).exec s = (.error e, s) := by
        rw [Auth.refresh, exec_bind_of_ok first, exec_bind, transact_error]
        rw [Tx.read, judged]
        rfl
      rw [performed, failed]
      simp only [refreshStatements, verified, alone, judged]
    | ok found =>
      obtain ⟨session, loaded⟩ := found
      have second : (transact (Tx.read (judgeRefresh env payload refreshToken))).exec s =
          (.ok (session, loaded), s) := transact_ok (Tx.read_ok_iff.mpr ⟨judged, rfl⟩)
      have stored := List.mem_of_find?_eq_some (judgeRefresh_ok judged).1
      obtain ⟨row, located⟩ : ∃ row, refreshSessions.findUnique session.id s = some row :=
        Rows.exists_find_iff.mpr (List.mem_map_of_mem stored)
      have third : (transact (refreshSessions.update session.id (revoke env.now))).exec s =
          (.ok (revoke env.now row), revokeSession env.now session.id s) :=
        transact_ok (Table.update_found located _)
      have keeps : ∀ row, (revoke env.now row).tokenHash = row.tokenHash := fun _ => rfl
      have kept : (revokeSession env.now session.id s).refreshSessions.map
          RefreshSession.tokenHash = s.refreshSessions.map RefreshSession.tokenHash :=
        Rows.map_modify keeps _
      have issued : createSession env loaded (revokeSession env.now session.id s) = _ :=
        createSession_free (by rw [kept]; exact free loaded)
      have done : (Auth.refresh env refreshToken).exec s =
          (.ok (newTokens env s.nextId loaded), insertSession (newSession env s.nextId loaded)
              (revokeSession env.now session.id s)) := by
        rw [Auth.refresh, exec_bind_of_ok first, exec_bind_of_ok second, exec_bind_of_ok third]
        exact transact_ok issued
      rw [performed, done]
      simp only [refreshStatements, verified, alone, judged, issueStatements]

theorem logout_alone (env : AuthEnv) (refreshToken : String) (s : AuthStore) :
    alone (logoutStatements env refreshToken) s s =
      (((AuthRequest.logout env refreshToken).perform.exec s).2,
        ((AuthRequest.logout env refreshToken).perform.exec s).1) := rfl

def Spent (tokenHash : String) (s : AuthStore) : Prop :=
  ∀ session ∈ sessionOf tokenHash s, session.status ≠ .active

def SessionIs (tokenHash : String) (sessionId : Id) (s : AuthStore) : Prop :=
  ∀ session ∈ sessionOf tokenHash s, session.id = sessionId

def SessionKept (tokenHash : String) (s t : AuthStore) : Prop :=
  (∀ sessionId, SessionIs tokenHash sessionId s → SessionIs tokenHash sessionId t) ∧
    (Spent tokenHash s → Spent tokenHash t)

section
variable {tokenHash : String} {s : AuthStore}

theorem sessionKept_refl (s : AuthStore) : SessionKept tokenHash s s :=
  ⟨fun _ is => is, fun spent => spent⟩

theorem sessionOf_map {f : RefreshSession → RefreshSession}
    (keeps : ∀ session, (f session).tokenHash = session.tokenHash) :
    sessionOf tokenHash { s with refreshSessions := s.refreshSessions.map f } =
      (sessionOf tokenHash s).map f := by
  simp only [sessionOf, List.find?_map, Function.comp_def, keeps]

theorem sessionKept_map {f : RefreshSession → RefreshSession}
    (keeps : ∀ session, (f session).tokenHash = session.tokenHash ∧ (f session).id = session.id)
    (closes : ∀ session, session.status ≠ .active → (f session).status ≠ .active) :
    SessionKept tokenHash s { s with refreshSessions := s.refreshSessions.map f } := by
  have after : sessionOf tokenHash { s with refreshSessions := s.refreshSessions.map f } = _ :=
    sessionOf_map fun session => (keeps session).1
  refine ⟨fun sessionId is session found => ?_, fun spent session found => ?_⟩
  · rw [after] at found
    obtain ⟨old, before, rfl⟩ := Option.map_eq_some_iff.mp found
    rw [(keeps old).2]
    exact is old before
  · rw [after] at found
    obtain ⟨old, before, rfl⟩ := Option.map_eq_some_iff.mp found
    exact closes old (spent old before)

theorem revokeSession_kept (now : Instant) (sessionId : Id) (s : AuthStore) :
    SessionKept tokenHash s (revokeSession now sessionId s) := by
  refine sessionKept_map (fun session => ?_) fun session closed => ?_
  · split <;> exact ⟨rfl, rfl⟩
  · split
    · exact SessionStatus.noConfusion
    · exact closed

theorem revokeSession_spent {now : Instant} {sessionId : Id}
    (is : SessionIs tokenHash sessionId s) : Spent tokenHash (revokeSession now sessionId s) := by
  intro session found
  have after : sessionOf tokenHash (revokeSession now sessionId s) = _ :=
    sessionOf_map fun session => by split <;> rfl
  rw [after] at found
  obtain ⟨old, before, rfl⟩ := Option.map_eq_some_iff.mp found
  rw [if_pos (decide_eq_true (is old before))]
  exact SessionStatus.noConfusion

theorem revokeSessions_kept (now : Instant) (s : AuthStore) :
    SessionKept tokenHash s (revokeSessions now tokenHash s) := by
  refine sessionKept_map (fun session => ?_) fun session closed => ?_
  · split <;> exact ⟨rfl, rfl⟩
  · split
    · exact SessionStatus.noConfusion
    · exact closed

theorem revokeSessions_spent (now : Instant) (s : AuthStore) :
    Spent tokenHash (revokeSessions now tokenHash s) := by
  intro session found
  have after : sessionOf tokenHash (revokeSessions now tokenHash s) = _ :=
    sessionOf_map fun session => by split <;> rfl
  rw [after] at found
  obtain ⟨old, before, rfl⟩ := Option.map_eq_some_iff.mp found
  have own : old.tokenHash = tokenHash := by
    rw [sessionOf] at before
    simpa using List.find?_some before
  by_cases active : old.status = .active
  · rw [if_pos (decide_eq_true ⟨own, active⟩)]
    exact SessionStatus.noConfusion
  · rw [if_neg (fun both => active (of_decide_eq_true both).2)]
    exact active

theorem insertSession_of {session : RefreshSession} (other : session.tokenHash ≠ tokenHash) :
    sessionOf tokenHash (insertSession session s) = sessionOf tokenHash s := by
  rw [sessionOf, insertSession, List.find?_append, List.find?_singleton,
    if_neg (by simpa using other), Option.or_none]
  rfl

theorem insertSession_kept {session : RefreshSession} (other : session.tokenHash ≠ tokenHash) :
    SessionKept tokenHash s (insertSession session s) := by
  refine ⟨fun sessionId is => ?_, fun spent => ?_⟩
  · rw [SessionIs, insertSession_of other]
    exact is
  · rw [Spent, insertSession_of other]
    exact spent

end

def spends : AuthProgram → Bool
  | .write [_] _ (.commit (.write _ _ _)) => true
  | .commit (.write _ _ _) => true
  | _ => false

inductive Stage where
  | fresh | failed | chosen | revoking | issuing | inserted | refreshed | closing | closed
  deriving DecidableEq

def Stage.claimed : Stage → Bool
  | .chosen | .revoking | .issuing | .inserted | .refreshed => true
  | _ => false

/-- Where a request is, by the statements that it still has to make, and what it has made sure of
in the committed store. -/
inductive At (refreshToken tokenHash : String) (r : TokenRequest) (s : AuthStore)
    (session : AuthSession) : Stage → Prop where
  | fresh (rest : session.rest = statements refreshToken r) (own : session.own = id) :
      At refreshToken tokenHash r s session .fresh
  | failed (e : ApiException) (rest : session.rest = .stop (.error e)) :
      At refreshToken tokenHash r s session .failed
  | chosen (sessionId newId : Id) (loaded : UserDto)
      (rest : session.rest = .write [tokenHash] (revokeSession r.env.now sessionId)
        (.commit (issueStatements r.env newId loaded)))
      (own : session.own = id) (drawn : r.call = .refresh newId)
      (is : SessionIs tokenHash sessionId s) : At refreshToken tokenHash r s session .chosen
  | revoking (sessionId newId : Id) (loaded : UserDto)
      (rest : session.rest = .commit (issueStatements r.env newId loaded))
      (own : session.own = revokeSession r.env.now sessionId) (drawn : r.call = .refresh newId)
      (is : SessionIs tokenHash sessionId s) : At refreshToken tokenHash r s session .revoking
  | issuing (newId : Id) (loaded : UserDto)
      (rest : session.rest = issueStatements r.env newId loaded)
      (own : session.own = id) (drawn : r.call = .refresh newId) (spent : Spent tokenHash s) :
      At refreshToken tokenHash r s session .issuing
  | inserted (newId : Id) (loaded : UserDto)
      (rest : session.rest = .commit (.stop (.ok (some (newTokens r.env newId loaded)))))
      (own : session.own = insertSession (newSession r.env newId loaded))
      (drawn : r.call = .refresh newId) (spent : Spent tokenHash s) :
      At refreshToken tokenHash r s session .inserted
  | refreshed (tokens : AuthTokensResponse) (rest : session.rest = .stop (.ok (some tokens)))
      (spent : Spent tokenHash s) : At refreshToken tokenHash r s session .refreshed
  | closing (rest : session.rest = .commit (.stop (.ok none)))
      (own : session.own = revokeSessions r.env.now tokenHash) :
      At refreshToken tokenHash r s session .closing
  | closed (rest : session.rest = .stop (.ok none)) (spent : Spent tokenHash s) :
      At refreshToken tokenHash r s session .closed

section
variable {refreshToken tokenHash : String} {r : TokenRequest} {s t : AuthStore}
  {session : AuthSession} {stage : Stage}

theorem At.kept (at_ : At refreshToken tokenHash r s session stage)
    (kept : SessionKept tokenHash s t) : At refreshToken tokenHash r t session stage := by
  cases at_ with
  | fresh rest own => exact .fresh rest own
  | failed e rest => exact .failed e rest
  | chosen sessionId newId loaded rest own drawn is =>
    exact .chosen sessionId newId loaded rest own drawn (kept.1 _ is)
  | revoking sessionId newId loaded rest own drawn is =>
    exact .revoking sessionId newId loaded rest own drawn (kept.1 _ is)
  | issuing newId loaded rest own drawn spent =>
    exact .issuing newId loaded rest own drawn (kept.2 spent)
  | inserted newId loaded rest own drawn spent =>
    exact .inserted newId loaded rest own drawn (kept.2 spent)
  | refreshed tokens rest spent => exact .refreshed tokens rest (kept.2 spent)
  | closing rest own => exact .closing rest own
  | closed rest spent => exact .closed rest (kept.2 spent)

theorem At.spends (at_ : At refreshToken tokenHash r s session stage)
    (claimed : stage.claimed = true) : spends session.rest = true ∨ Spent tokenHash s := by
  cases at_ with
  | chosen _ _ _ rest | revoking _ _ _ rest => exact .inl (by rw [rest]; rfl)
  | issuing _ _ _ _ _ spent => exact .inr spent
  | inserted _ _ _ _ _ spent => exact .inr spent
  | refreshed _ _ spent => exact .inr spent
  | _ => cases claimed

end

/-- Requests present one token, and the tokens they get hash to something else. -/
structure OneToken {ι : Type} (refreshToken tokenHash : String) (r : ι → TokenRequest) : Prop where
  hashed : ∀ i, (r i).env.hashToken refreshToken = tokenHash
  fresh : ∀ i newId, (r i).call = .refresh newId → ∀ loaded,
    (newSession (r i).env newId loaded).tokenHash ≠ tokenHash

variable {ι : Type}

def chooses (w : AuthWorld ι) (i : ι) : Bool :=
  match (w.sessions i).rest with
  | .read next => spends (next (w.view i))
  | _ => false

variable [DecidableEq ι] [Fintype ι]

section
variable {refreshToken tokenHash : String} {r : ι → TokenRequest} {w : AuthWorld ι} {i : ι}
  {stage : Stage}

/-- What a statement does to its own request: where it gets, what the store keeps, and when it has
read the token as good. -/
def Advances (refreshToken tokenHash : String) (r : ι → TokenRequest) (w : AuthWorld ι) (i : ι)
    (stage : Stage) : Prop :=
  ∃ stage', At refreshToken tokenHash (r i) (Sessions.step w i).committed
      ((Sessions.step w i).sessions i) stage' ∧
    SessionKept tokenHash w.committed (Sessions.step w i).committed ∧
    (stage'.claimed = true → stage.claimed = true ∨
      chooses w i = true ∧ ¬Spent tokenHash w.committed)

theorem advances_stays (at_ : At refreshToken tokenHash (r i) w.committed (w.sessions i) stage)
    (same : Sessions.step w i = w) : Advances refreshToken tokenHash r w i stage := by
  refine ⟨stage, ?_, ?_, .inl⟩
  · rw [same]
    exact at_
  · rw [same]
    exact sessionKept_refl _

theorem refresh_advances (one : OneToken refreshToken tokenHash r) {newId : Id}
    (drawn : (r i).call = .refresh newId) (own : (w.sessions i).own = id)
    (rest : (w.sessions i).rest = statements refreshToken (r i)) :
    Advances refreshToken tokenHash r w i .fresh := by
  have is := rest
  rw [statements, drawn] at is
  simp only [refreshStatements] at is
  cases verified : verifyRefreshToken (r i).env refreshToken with
  | error e =>
    rw [verified] at is
    exact advances_stays (.fresh rest own) (step_stop is)
  | ok payload =>
    rw [verified] at is
    have view : w.view i = w.committed := by
      rw [World.view, own]
      rfl
    have after := step_read is
    rw [view] at after
    cases judged : judgeRefresh (r i).env payload refreshToken w.committed with
    | error e =>
      rw [judged] at after
      refine ⟨.failed, ?_, ?_, fun claimed => by cases claimed⟩
      · rw [after, put_self]
        exact .failed e rfl
      · rw [after]
        exact sessionKept_refl _
    | ok found =>
      obtain ⟨session, loaded⟩ := found
      obtain ⟨located, active, _⟩ := judgeRefresh_ok judged
      rw [one.hashed i] at located
      have hash : session.tokenHash = tokenHash := by
        rw [sessionOf] at located
        simpa using List.find?_some located
      rw [judged] at after
      refine ⟨.chosen, ?_, ?_, fun _ => .inr ⟨?_, fun spent => spent session located active⟩⟩
      · rw [after, put_self]
        refine .chosen session.id newId loaded (by rw [← hash]) own drawn ?_
        intro session' found
        rw [put_committed, located] at found
        rw [Option.some.inj found]
      · rw [after]
        exact sessionKept_refl _
      · simp only [chooses, is, view, judged]
        rfl

theorem at_step (one : OneToken refreshToken tokenHash r)
    (at_ : At refreshToken tokenHash (r i) w.committed (w.sessions i) stage) :
    Advances refreshToken tokenHash r w i stage := by
  cases at_ with
  | fresh rest own =>
    cases drawn : (r i).call with
    | refresh newId => exact refresh_advances one drawn own rest
    | logout =>
      have is := rest
      rw [statements, drawn] at is
      simp only [logoutStatements, one.hashed i] at is
      by_cases blocked : Blocked w i [tokenHash]
      · exact advances_stays (.fresh rest own) (step_blocked is blocked)
      · have after := step_write is blocked
        refine ⟨.closing, ?_, ?_, fun claimed => by cases claimed⟩
        · rw [after, put_self]
          exact .closing rfl (by rw [own]; rfl)
        · rw [after]
          exact sessionKept_refl _
  | failed e rest => exact advances_stays (.failed e rest) (step_stop rest)
  | chosen sessionId newId loaded rest own drawn is =>
    by_cases blocked : Blocked w i [tokenHash]
    · exact advances_stays (.chosen sessionId newId loaded rest own drawn is)
        (step_blocked rest blocked)
    · have after := step_write rest blocked
      refine ⟨.revoking, ?_, ?_, fun _ => .inl rfl⟩
      · rw [after, put_self]
        exact .revoking sessionId newId loaded rfl (by rw [own]; rfl) drawn is
      · rw [after]
        exact sessionKept_refl _
  | revoking sessionId newId loaded rest own drawn is =>
    have after := step_commit rest
    have view : w.view i = revokeSession (r i).env.now sessionId w.committed := by
      rw [World.view, own]
    rw [view] at after
    refine ⟨.issuing, ?_, ?_, fun _ => .inl rfl⟩
    · rw [after, put_self]
      exact .issuing newId loaded rfl rfl drawn (revokeSession_spent is)
    · rw [after]
      exact revokeSession_kept _ _ _
  | issuing newId loaded rest own drawn spent =>
    have free : ¬Blocked w i [] := by
      rintro ⟨_, _, _, listed, _⟩
      cases listed
    have after := step_write rest free
    refine ⟨.inserted, ?_, ?_, fun _ => .inl rfl⟩
    · rw [after, put_self]
      exact .inserted newId loaded rfl (by rw [own]; rfl) drawn spent
    · rw [after]
      exact sessionKept_refl _
  | inserted newId loaded rest own drawn spent =>
    have after := step_commit rest
    have view : w.view i = insertSession (newSession (r i).env newId loaded) w.committed := by
      rw [World.view, own]
    have kept := insertSession_kept (s := w.committed) (one.fresh i newId drawn loaded)
    rw [view] at after
    refine ⟨.refreshed, ?_, ?_, fun _ => .inl rfl⟩
    · rw [after, put_self]
      exact .refreshed _ rfl (kept.2 spent)
    · rw [after]
      exact kept
  | refreshed tokens rest spent =>
    exact advances_stays (.refreshed tokens rest spent) (step_stop rest)
  | closing rest own =>
    have after := step_commit rest
    have view : w.view i = revokeSessions (r i).env.now tokenHash w.committed := by
      rw [World.view, own]
    rw [view] at after
    refine ⟨.closed, ?_, ?_, fun claimed => by cases claimed⟩
    · rw [after, put_self]
      exact .closed rfl (revokeSessions_spent _ _)
    · rw [after]
      exact revokeSessions_kept _ _
  | closed rest spent => exact advances_stays (.closed rest spent) (step_stop rest)

end

def requestsAfter (refreshToken : String) (r : ι → TokenRequest) (s : AuthStore)
    (schedule : List ι) : AuthWorld ι :=
  Trace.run Sessions.step (start (fun i => statements refreshToken (r i)) s) schedule

/-- The request has been answered without an error. -/
def Completed (w : AuthWorld ι) (i : ι) : Prop := (w.sessions i).answer.any Except.isOk = true

/-- The request has obtained new tokens. -/
def Renewed (w : AuthWorld ι) (i : ι) : Prop :=
  ∃ tokens, (w.sessions i).answer = some (.ok (some tokens))

/-- At most one request obtains new tokens, and none that makes its first statement when another
has been completed. -/
def SingleUse (refreshToken : String) (r : ι → TokenRequest) (s : AuthStore)
    (schedule : List ι) : Prop :=
  (∀ i j, Renewed (requestsAfter refreshToken r s schedule) i →
    Renewed (requestsAfter refreshToken r s schedule) j → i = j) ∧
  ∀ earlier later, schedule = earlier ++ later → ∀ i j,
    Completed (requestsAfter refreshToken r s earlier) j → i ∉ earlier →
      ¬Renewed (requestsAfter refreshToken r s schedule) i

/-- A request reads the token as good only while no other is between reading it as good and
committing its revocation. -/
def Sighted (w : AuthWorld ι) (i : ι) : Prop :=
  chooses w i = true → ∀ j, j ≠ i → spends (w.sessions j).rest = false

section
variable {refreshToken tokenHash : String} {r : ι → TokenRequest} {w : AuthWorld ι} {i : ι}

/-- Every request is somewhere. -/
def Staged (refreshToken tokenHash : String) (r : ι → TokenRequest) (w : AuthWorld ι)
    (stages : ι → Stage) : Prop :=
  ∀ i, At refreshToken tokenHash (r i) w.committed (w.sessions i) (stages i)

theorem staged_step (one : OneToken refreshToken tokenHash r) {stages : ι → Stage}
    (staged : Staged refreshToken tokenHash r w stages) (i : ι) :
    ∃ stage', Staged refreshToken tokenHash r (Sessions.step w i)
        (Function.update stages i stage') ∧
      SessionKept tokenHash w.committed (Sessions.step w i).committed ∧
      (stage'.claimed = true → (stages i).claimed = true ∨
        chooses w i = true ∧ ¬Spent tokenHash w.committed) := by
  obtain ⟨stage', at_, kept, claims⟩ := at_step one (staged i)
  refine ⟨stage', fun j => ?_, kept, claims⟩
  by_cases here : j = i
  · subst here
    rw [Function.update_self]
    exact at_
  · rw [Function.update_of_ne here, step_other w here]
    exact (staged j).kept kept

omit [DecidableEq ι] [Fintype ι] in
theorem staged_start (s : AuthStore) :
    Staged refreshToken tokenHash r (start (fun i => statements refreshToken (r i)) s)
      (fun _ => .fresh) := fun _ => .fresh rfl rfl

/-- At most one request has read the token as good. -/
def OneClaim (stages : ι → Stage) : Prop :=
  ∀ i j, (stages i).claimed = true → (stages j).claimed = true → i = j

theorem oneClaim_step (one : OneToken refreshToken tokenHash r) {stages : ι → Stage}
    (staged : Staged refreshToken tokenHash r w stages) (single : OneClaim stages)
    (sighted : Sighted w i) :
    ∃ stages', Staged refreshToken tokenHash r (Sessions.step w i) stages' ∧ OneClaim stages' := by
  obtain ⟨stage', staged', _, claims⟩ := staged_step one staged i
  refine ⟨_, staged', ?_⟩
  -- Another claim would be about to spend the token, or would have spent it.
  have alone : stage'.claimed = true → ∀ j, j ≠ i → (stages j).claimed ≠ true := by
    intro claimed j other theirs
    rcases claims claimed with before | ⟨choosing, unspent⟩
    · exact other (single j i theirs before)
    · rcases (staged j).spends theirs with spending | spent
      · rw [sighted choosing j other] at spending
        cases spending
      · exact unspent spent
  intro j l hj hl
  by_cases first : j = i
  · subst first
    by_cases second : l = j
    · exact second.symm
    · rw [Function.update_self] at hj
      rw [Function.update_of_ne second] at hl
      exact absurd hl (alone hj l second)
  · rw [Function.update_of_ne first] at hj
    by_cases second : l = i
    · subst second
      rw [Function.update_self] at hl
      exact absurd hj (alone hl j first)
    · rw [Function.update_of_ne second] at hl
      exact single j l hj hl

/-- The token is spent, and the request has not read it as good before. -/
def Late (refreshToken tokenHash : String) (r : ι → TokenRequest) (i : ι) (w : AuthWorld ι) :
    Prop :=
  ∃ stages, Staged refreshToken tokenHash r w stages ∧ Spent tokenHash w.committed ∧
    (stages i).claimed = false

theorem late_step (one : OneToken refreshToken tokenHash r) (w : AuthWorld ι) (j : ι)
    (late : Late refreshToken tokenHash r i w) :
    Late refreshToken tokenHash r i (Sessions.step w j) := by
  obtain ⟨stages, staged, spent, unclaimed⟩ := late
  obtain ⟨stage', staged', kept, claims⟩ := staged_step one staged j
  refine ⟨_, staged', kept.2 spent, ?_⟩
  by_cases here : i = j
  · subst here
    rw [Function.update_self]
    refine Bool.eq_false_iff.mpr fun claimed => ?_
    rcases claims claimed with before | ⟨_, unspent⟩
    · rw [unclaimed] at before
      cases before
    · exact unspent spent
  · rw [Function.update_of_ne here]
    exact unclaimed

theorem statements_answer {answer : Except ApiException (Option AuthTokensResponse)}
    {session : AuthSession} {r : TokenRequest} (rest : session.rest = statements refreshToken r)
    (answered : session.answer = some answer) : answer.isOk = false := by
  rw [Session.answer, rest, statements] at answered
  cases drawn : r.call with
  | logout =>
    rw [drawn] at answered
    cases answered
  | refresh newId =>
    rw [drawn] at answered
    cases verified : verifyRefreshToken r.env refreshToken with
    | error e =>
      simp only [refreshStatements, verified] at answered
      rw [← Option.some.inj answered]
      rfl
    | ok payload =>
      simp only [refreshStatements, verified] at answered
      cases answered

omit [DecidableEq ι] [Fintype ι] in
theorem claimed_of_renewed {stage : Stage}
    (at_ : At refreshToken tokenHash (r i) w.committed (w.sessions i) stage)
    (renewed : Renewed w i) : stage.claimed = true := by
  obtain ⟨tokens, answered⟩ := renewed
  cases at_ with
  | fresh rest => cases statements_answer rest answered
  | failed _ rest | closing rest | closed rest =>
    rw [Session.answer, rest] at answered
    cases answered
  | _ => rfl

omit [DecidableEq ι] [Fintype ι] in
theorem spent_of_completed {stage : Stage}
    (at_ : At refreshToken tokenHash (r i) w.committed (w.sessions i) stage)
    (completed : Completed w i) : Spent tokenHash w.committed := by
  obtain ⟨answer, answered, ok⟩ := (Option.any_eq_true _ _).mp completed
  cases at_ with
  | fresh rest =>
    rw [statements_answer rest answered] at ok
    cases ok
  | failed _ rest =>
    rw [Session.answer, rest] at answered
    rw [← Option.some.inj answered] at ok
    cases ok
  | refreshed _ _ spent => exact spent
  | closed _ spent => exact spent
  | issuing newId loaded rest =>
    rw [Session.answer, rest] at answered
    cases answered
  | chosen _ _ _ rest | revoking _ _ _ rest | inserted _ _ rest | closing rest =>
    rw [Session.answer, rest] at answered
    cases answered

theorem untouched {schedule : List ι} {s : AuthStore} (i : ι) (absent : i ∉ schedule) :
    (requestsAfter refreshToken r s schedule).sessions i =
      { rest := statements refreshToken (r i) } := by
  have keeps : ∀ (w : AuthWorld ι) (j : ι),
      w.sessions i = { rest := statements refreshToken (r i) } → i ≠ j →
        (Sessions.step w j).sessions i = { rest := statements refreshToken (r i) } :=
    fun w j is other => (step_other w other).trans is
  refine Trace.run_invariant keeps rfl (Trace.along_of_forall ?_ _)
  intro j listed same
  exact absent (same ▸ listed)

/-- A refresh token is good for one refresh, as long as requests read it as good one at a time. -/
theorem one_refresh (one : OneToken refreshToken tokenHash r) {s : AuthStore} {schedule : List ι}
    (sighted : Trace.Along Sessions.step Sighted
      (start (fun i => statements refreshToken (r i)) s) schedule) :
    SingleUse refreshToken r s schedule := by
  constructor
  · have keeps : ∀ (w : AuthWorld ι) (i : ι),
        (∃ stages, Staged refreshToken tokenHash r w stages ∧ OneClaim stages) → Sighted w i →
        ∃ stages, Staged refreshToken tokenHash r (Sessions.step w i) stages ∧ OneClaim stages :=
      fun w i ⟨_, staged, single⟩ sighted => oneClaim_step one staged single sighted
    have begun : OneClaim fun _ : ι => Stage.fresh := fun _ _ claimed => by cases claimed
    obtain ⟨stages, staged, single⟩ :=
      Trace.run_invariant keeps ⟨_, staged_start s, begun⟩ sighted
    intro i j hi hj
    exact single i j (claimed_of_renewed (staged i) hi) (claimed_of_renewed (staged j) hj)
  · rintro earlier later rfl i j completed absent renewed
    have always : ∀ (w : AuthWorld ι) (j : ι),
        (∃ stages, Staged refreshToken tokenHash r w stages) →
          ∃ stages, Staged refreshToken tokenHash r (Sessions.step w j) stages := by
      rintro w j ⟨_, staged⟩
      obtain ⟨_, staged', _⟩ := staged_step one staged j
      exact ⟨_, staged'⟩
    obtain ⟨stages, staged⟩ := Trace.run_always always ⟨_, staged_start s⟩ earlier
    have late : Late refreshToken tokenHash r i (requestsAfter refreshToken r s earlier) := by
      refine ⟨Function.update stages i .fresh, fun l => ?_, spent_of_completed (staged j) completed,
        by rw [Function.update_self]; rfl⟩
      by_cases here : l = i
      · subst here
        rw [Function.update_self, untouched l absent]
        exact .fresh rfl rfl
      · rw [Function.update_of_ne here]
        exact staged l
    obtain ⟨_, staged, _, unclaimed⟩ := Trace.run_always (late_step one) late later
    rw [requestsAfter, Trace.run_append] at renewed
    rw [claimed_of_renewed (staged i) renewed] at unclaimed
    cases unclaimed

end

instance (w : AuthWorld ι) (i : ι) : Decidable (Sighted w i) := by
  unfold Sighted
  infer_instance

instance (w : AuthWorld ι) (i : ι) : Decidable (Renewed w i) :=
  match is : (w.sessions i).answer with
  | some (.ok (some tokens)) => .isTrue ⟨tokens, is⟩
  | some (.ok none) | some (.error _) | none =>
    .isFalse fun ⟨tokens, renewed⟩ => by rw [is] at renewed; cases renewed

def twoTabs : Fin 2 → TokenRequest := fun tab => ⟨authEnv 3, .refresh (31 + tab)⟩

theorem twoTabs_oneToken : OneToken "refresh-30" "refresh-30" twoTabs where
  hashed _ := rfl
  fresh tab newId drawn loaded := by
    obtain rfl := TokenCall.refresh.inj drawn
    clear drawn
    show "refresh-" ++ toString (31 + (tab : Nat)) ≠ "refresh-30"
    revert tab
    decide

def signedIn : AuthStore := authStep twoTenants signIn

theorem signedIn_refresh :
    let done := (AuthRequest.refresh (authEnv 3) "refresh-30").perform.exec signedIn
    alone (refreshStatements (authEnv 3) signedIn.nextId "refresh-30") signedIn signedIn =
      (done.2, done.1) :=
  refresh_alone fun _ => by show "refresh-" ++ toString signedIn.nextId ∉ _; decide +kernel

/-- The second tab reads the session when the first has revoked it. -/
theorem tabs_in_turn : SingleUse "refresh-30" twoTabs signedIn [0, 0, 0, 1, 0, 0] :=
  one_refresh twoTabs_oneToken (by decide +kernel)

/-- Both tabs have read the session before either revokes it. -/
theorem tabs_at_once :
    ¬∀ (refreshToken tokenHash : String) (r : Fin 2 → TokenRequest) (s : AuthStore)
      (schedule : List (Fin 2)), OneToken refreshToken tokenHash r →
        SingleUse refreshToken r s schedule := by
  intro always
  have single := (always "refresh-30" "refresh-30" twoTabs signedIn [0, 1, 0, 0, 0, 0, 1, 1, 1, 1]
    twoTabs_oneToken).1
  have both : ∀ tab, Renewed (requestsAfter "refresh-30" twoTabs signedIn
      [0, 1, 0, 0, 0, 0, 1, 1, 1, 1]) tab := by decide +kernel
  exact absurd (single 0 1 (both 0) (both 1)) (by decide)

end Exetron.Auth.Concurrent
