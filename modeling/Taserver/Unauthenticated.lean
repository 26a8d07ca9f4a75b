import Taserver.Registry

/-! The unauthenticated state of a player (unauthenticated_state.py): its handlers for `a01bc`,
`a0033` and the login request `a003a`, and the dispatch of a request to the handlers of the
player's state. `handle_login_request` is split along its blocks: the rejection of an invalid name,
the account check that re-keys the player, and the acceptance that chooses the display name and
moves the player to the authenticated state. Each part has a lemma for each of its outcomes. -/

namespace Taserver

/-- `UnauthenticatedState.handle_a01bc` for player `r`. -/
def handleA01bc (out : Outside) (r : Nat) : Handler Unit := do
  call out (.send (.player r) .a01bc)
  call out (.send (.player r) .a0197)

/-- `UnauthenticatedState.handle_a0033` for player `r`. -/
def handleA0033 (out : Outside) (r : Nat) : Handler Unit :=
  call out (.send (.player r) .a0033)

/-- `[p.display_name for p in players.values() if p.display_name is not None]`. -/
def LoginServer.namesInUse (s : LoginServer) : List String :=
  s.players.values.filterMap fun q => (s.player q).displayName

/-- The rejection of an invalid login name: the failure reply, then the log line, whose
`login_name.encode('latin1')` raises for a character past Latin-1. -/
def rejectLogin (out : Outside) (r : Nat) (loginName : String) : Handler Unit := do
  call out (.send (.player r) .loginRejected)
  unless loginName.data.all (fun c => c.toNat < 256) do throw .unicodeEncode

/-- The account check of a valid login: a login name and password hash that match an account
move the player to the account's unique id and mark it registered. -/
def checkAccount (cfg : Config) (r : Nat) (loginName : String) (passwordHash : List UInt8) :
    Handler Unit :=
  match cfg.accounts loginName with
  | some account =>
    if passwordHash = account.passwordHash then do
      changePlayerUniqueId ((← get).player r).uniqueId account.uniqueId
      updatePlayer r fun p => { p with registered := true }
    else pure ()
  | none => pure ()

/-- The end of a valid login: the display name, `player.load()`, the success reply and
`set_state(AuthenticatedState)`. -/
def acceptLogin (cfg : Config) (out : Outside) (r : Nat) (loginName : String) : Handler Unit := do
  let s ← get
  let some displayName := chooseDisplayName loginName (s.player r).registered s.namesInUse
    cfg.rules.maxNameLength | throw .assertion
  updatePlayer r fun p => { p with displayName := some displayName }
  call out (.load r)
  call out (.send (.player r) .loginAccepted)
  setState out r .authenticated

/-- `UnauthenticatedState.handle_login_request` for player `r`: without a password hash the
request asks for the login form; with one it is a login. -/
def handleLoginRequest (cfg : Config) (out : Outside) (r : Nat) (loginName : Option String)
    (passwordHash : Option (List UInt8)) : Handler Unit :=
  match passwordHash with
  | none => call out (.send (.player r) .a003a)
  | some hash => do
    -- `request.findbytype(m0494).value`
    let some name := loginName | throw .attributeError
    updatePlayer r fun p => { p with loginName := some name }
    updatePlayer r fun p => { p with passwordHash := some hash }
    match validateUsername cfg.rules name with
    | some _ => rejectLogin out r name
    | none => do
      checkAccount cfg r name hash
      acceptLogin cfg out r name

/-- Modelled from the spec: player.py and player_state.py are not under src/.
`player.handle_request(request)` runs the handler of the player's state; a request the state does
not accept is a protocol violation (spec 4.3), and the gameplay states' handlers are an external
call. -/
def handleRequest (cfg : Config) (out : Outside) (r : Nat) (request : Request) : Handler Unit := do
  match ((← get).player r).state, request with
  | some .unauthenticated, .a01bc => handleA01bc out r
  | some .unauthenticated, .a0033 => handleA0033 out r
  | some .unauthenticated, .a003a loginName passwordHash =>
    handleLoginRequest cfg out r loginName passwordHash
  | some .unauthenticated, .other _ => throw (.protocolViolation "request not accepted")
  | some .authenticated, request => call out (.gameplay r request)
  | some .offline, _ => throw (.protocolViolation "request not accepted")
  | none, _ => throw .attributeError

/-! ### Outcomes of a login -/

section Outcomes

variable {cfg : Config} {out : Outside} {r : Nat} {s : LoginServer}

/-- The stored login name and password hash of a login. -/
def credentials (loginName : String) (passwordHash : List UInt8) (p : Player) : Player :=
  { p with loginName := some loginName, passwordHash := some passwordHash }

theorem handleLoginRequest_invalid {name : String} {hash : List UInt8} {reason : String}
    (hv : validateUsername cfg.rules name = some reason) :
    handleLoginRequest cfg out r (some name) (some hash) s =
      rejectLogin out r name (s.updatePlayer r (credentials name hash)) := by
  simp only [handleLoginRequest, Handler.bind_apply, updatePlayer_apply, hv]
  simp only [LoginServer.updatePlayer_updatePlayer]
  rfl

theorem handleLoginRequest_valid {name : String} {hash : List UInt8}
    (hv : validateUsername cfg.rules name = none) :
    handleLoginRequest cfg out r (some name) (some hash) s =
      (checkAccount cfg r name hash >>= fun _ => acceptLogin cfg out r name)
        (s.updatePlayer r (credentials name hash)) := by
  simp only [handleLoginRequest, Handler.bind_apply, updatePlayer_apply, hv]
  simp only [LoginServer.updatePlayer_updatePlayer]
  rfl

/-- A rejection records at most its reply. -/
theorem rejectLogin_state {name : String} :
    ∃ cs, resultState (rejectLogin out r name s) = s.record cs := by
  unfold rejectLogin
  by_cases hc : out.raises (.send (.player r) .loginRejected) = true
  · exact ⟨[], by simp [hc]⟩
  · by_cases hl : name.data.all (fun c => c.toNat < 256) = true <;>
      exact ⟨[.send (.player r) .loginRejected], by simp [hc, hl]⟩

/-- The account check leaves the state, raises with it unchanged (`AlreadyLoggedInError` only for
credentials that match an account whose id is taken), or re-keys the player and marks it
registered. -/
theorem checkAccount_cases {name : String} {hash : List UInt8}
    {res : EStateM.Result Error LoginServer Unit} (h : checkAccount cfg r name hash s = res) :
    res = .ok () s ∨
      (∃ e, res = .error e s ∧ ((e = .alreadyLoggedIn ∧ ∃ account, cfg.accounts name = some account ∧
        hash = account.passwordHash ∧ account.uniqueId ∈ s.players.keys) ∨ e = .assertion)) ∨
      ∃ account oldKey r', cfg.accounts name = some account ∧ hash = account.passwordHash ∧
        account.uniqueId ∉ s.players.keys ∧ (s.player r).uniqueId = some oldKey ∧
        s.players.get? oldKey = some r' ∧
        res = .ok () ((s.rekey oldKey account.uniqueId r').updatePlayer r
          fun p => { p with registered := true }) := by
  subst h
  unfold checkAccount
  rcases ha : cfg.accounts name with _ | account
  · exact .inl rfl
  by_cases hh : hash = account.passwordHash
  · subst hh
    simp only [↓reduceIte, Handler.bind_apply, Handler.get_apply]
    rcases @changePlayerUniqueId_cases s (s.player r).uniqueId account.uniqueId _ rfl with
      ⟨hnew, he⟩ | ⟨-, -, he⟩ | ⟨oldKey, r', hnew, hold, hget, he⟩
    · exact .inr (.inl ⟨_, by rw [he], .inl ⟨rfl, account, rfl, rfl, hnew⟩⟩)
    · exact .inr (.inl ⟨_, by rw [he], .inr rfl⟩)
    · rw [he]
      exact .inr (.inr ⟨account, oldKey, r', rfl, rfl, hnew, hold, hget, rfl⟩)
  · exact .inl (by simp [hh])

/-- The external calls at the end of a login, in order: `player.load()`, the success reply and
`set_state(AuthenticatedState)`. -/
def acceptCalls (r : Nat) : List Call :=
  [.load r, .send (.player r) .loginAccepted, .setState r .authenticated]

/-- The end of a login fails its assertion with the state unchanged, or stores the display name
and makes its three external calls; the player's state changes only when the last returns. -/
theorem acceptLogin_cases {name : String} {res : EStateM.Result Error LoginServer Unit}
    (h : acceptLogin cfg out r name s = res) :
    (chooseDisplayName name (s.player r).registered s.namesInUse cfg.rules.maxNameLength = none ∧
      res = .error .assertion s) ∨
    ∃ d, chooseDisplayName name (s.player r).registered s.namesInUse cfg.rules.maxNameLength =
        some d ∧
      ((∃ c cs, c ∈ acceptCalls r ∧ res = .error (.external c)
            ((s.updatePlayer r fun p => { p with displayName := some d }).record cs)) ∨
        res = .ok () ((s.updatePlayer r fun p =>
          { p with displayName := some d, state := some .authenticated }).record
            (acceptCalls r))) := by
  subst h
  unfold acceptLogin
  rcases hd : chooseDisplayName name (s.player r).registered s.namesInUse
    cfg.rules.maxNameLength with _ | d
  · exact .inl ⟨rfl, by simp [hd]⟩
  refine .inr ⟨d, rfl, ?_⟩
  simp only [Handler.bind_apply, Handler.get_apply, hd, updatePlayer_apply, call_apply, setState]
  by_cases h1 : out.raises (.load r) = true
  · exact .inl ⟨.load r, [], by simp [acceptCalls], by simp [h1]⟩
  by_cases h2 : out.raises (.send (.player r) .loginAccepted) = true
  · exact .inl ⟨.send (.player r) .loginAccepted, [.load r], by simp [acceptCalls],
      by simp [h1, h2]⟩
  by_cases h3 : out.raises (.setState r .authenticated) = true
  · exact .inl ⟨.setState r .authenticated, [.load r, .send (.player r) .loginAccepted],
      by simp [acceptCalls], by simp [h1, h2, h3]⟩
  · refine .inr ?_
    simp only [h1, h2, h3, Bool.false_eq_true, ↓reduceIte, LoginServer.updatePlayer_record,
      LoginServer.record_record, LoginServer.updatePlayer_updatePlayer]
    rfl

end Outcomes

end Taserver
