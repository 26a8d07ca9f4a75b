import Taserver.Sessions

/-! What a player holds once it is registered or authenticated. `check_account` marks a player
registered only when the password hash of the login matches the account of its login name, in the
handler that has just stored that name and hash; when every external call returns, such a login
ends authenticated, and an authenticated player takes no more login requests. So in every world
that the transport's order reaches with every external call returning, a registered player,
connected or gone, holds its login name's account and that account's password hash, as long as no
auth code is requested: `add_account` persists the login name with a new code, which the store in
`Config` does not follow.

`set_state(AuthenticatedState)` comes last in a login, after the login name is stored and the
display name chosen, and nothing clears either. So whatever the world answers and whatever the
order of the messages, an authenticated player has a login name and a display name. -/

namespace Taserver

/-! ### The password bound of registered players -/

/-- Player `p`, when registered, holds the account of its login name and that account's password
hash. -/
def Player.Bound (cfg : Config) (p : Player) : Prop :=
  p.registered = true → ∃ n a, p.loginName = some n ∧ cfg.accounts n = some a ∧
    p.passwordHash = some a.passwordHash

/-- The fields the bound reads. -/
def Player.credentialsOf (p : Player) : Bool × Option String × Option (List UInt8) :=
  (p.registered, p.loginName, p.passwordHash)

section Bound

variable {cfg : Config} {p p' : Player}

theorem Player.Bound.of_credentialsOf (h : p.Bound cfg) (hp : p'.credentialsOf = p.credentialsOf) :
    p'.Bound cfg := by
  simp only [Player.credentialsOf, Prod.mk.injEq] at hp
  rw [Player.Bound, hp.1, hp.2.1, hp.2.2]
  exact h

theorem Player.bound_of_unregistered (h : p.registered = false) : p.Bound cfg :=
  fun h' => by simp [h] at h'

end Bound

/-- Every player's bound is kept. -/
def BoundKept (cfg : Config) (s s' : LoginServer) : Prop :=
  ∀ q, (s.player q).Bound cfg → (s'.player q).Bound cfg

section BoundKept

variable {cfg : Config} (out : Outside) (r : Nat)

theorem isFrame_boundKept : IsFrame (BoundKept cfg) :=
  ⟨fun _ _ h => h, fun h₁ h₂ q h => h₂ q (h₁ q h), fun _ _ _ h => h⟩

/-- A change of a player that keeps its credentials. -/
theorem boundKept_updatePlayer (s : LoginServer) {f : Player → Player}
    (hf : ∀ p, (f p).credentialsOf = p.credentialsOf) : BoundKept cfg s (s.updatePlayer r f) :=
  fun q h => by
    rw [LoginServer.updatePlayer_player]
    split_ifs with hq
    · exact (hq ▸ h).of_credentialsOf (hf _)
    · exact h

theorem keeps_boundKept_updatePlayer {f : Player → Player}
    (hf : ∀ p, (f p).credentialsOf = p.credentialsOf) : Keeps (BoundKept cfg) (updatePlayer r f) :=
  fun s => boundKept_updatePlayer r s hf

theorem keeps_boundKept_connectPlayer :
    Keeps (BoundKept cfg) (handleClientConnectedMessage out (.player r)) :=
  keeps_connectPlayer isFrame_boundKept out r (fun _ => keeps_boundKept_updatePlayer r fun _ => rfl)
    (keeps_boundKept_updatePlayer r fun _ => rfl) fun _ _ _ h => h

theorem keeps_boundKept_disconnectPlayer :
    Keeps (BoundKept cfg) (handleClientDisconnectedMessage out (.player r)) :=
  keeps_disconnectPlayer isFrame_boundKept out r (keeps_boundKept_updatePlayer r fun _ => rfl)
    fun _ _ _ h => h

/-- The end of a login changes a display name and a state, whatever the world answers. -/
theorem keeps_boundKept_acceptLogin (name : String) :
    Keeps (BoundKept cfg) (acceptLogin cfg out r name) := fun s => by
  rcases acceptLogin_cases (rfl : acceptLogin cfg out r name s = _) with
    ⟨-, h⟩ | ⟨_, -, ⟨_, _, -, h⟩ | h⟩ <;> rw [h]
  · exact isFrame_boundKept.refl s
  all_goals
    simp only [resultState_ok, resultState_error]
    refine isFrame_boundKept.trans (boundKept_updatePlayer r s fun _ => ?_) (isFrame_boundKept.record _ _)
    rfl

end BoundKept

/-! ### Across a login, when every external call returns -/

section Login

variable {cfg : Config} {ph : Nat → Phase} {s : LoginServer} {r : Nat}

/-- A login of a connected unauthenticated player keeps every player's bound when every external
call returns: the player it registers holds the credentials that matched. -/
theorem PlayerInv.bound_login (hi : PlayerInv cfg ph s.roster) (hr : ph r = .connected)
    (hst : (s.player r).state = some .unauthenticated) (hb : ∀ q, (s.player q).Bound cfg)
    (loginName : Option String) (passwordHash : Option (List UInt8)) (q : Nat) :
    ((resultState (handleLoginRequest cfg .normal r loginName passwordHash s)).player q).Bound cfg := by
  obtain ⟨-, hreg, -⟩ := ((hi r).session hr).resolve_right (by simp [hst])
  simp only [LoginServer.roster_registered] at hreg
  rcases passwordHash with _ | hash
  · simpa [handleLoginRequest] using hb q
  rcases loginName with _ | name
  · simpa [handleLoginRequest] using hb q
  have hb₁ : ∀ q, ((s.updatePlayer r (credentials name hash)).player q).Bound cfg := fun q => by
    by_cases hq : q = r
    · subst hq
      exact Player.bound_of_unregistered (by simpa [credentials] using hreg)
    · simpa [hq] using hb q
  rcases hv : validateUsername cfg.rules name with _ | reason
  · by_cases hm : ∃ a, cfg.accounts name = some a ∧ a.passwordHash = hash
    · obtain ⟨a, ha, hh⟩ := hm
      by_cases hfree : a.uniqueId ∈ s.players.keys
      · rw [handleLoginRequest_taken s hv ha hh hfree, resultState_error]
        exact hb₁ q
      obtain ⟨k₀, hk₀, huid⟩ := hi.get?_uniqueId hr
      rw [handleLoginRequest_matched s hv ha hh hfree huid hk₀]
      refine keeps_boundKept_acceptLogin .normal r name _ q ?_
      by_cases hq : q = r
      · subst hq
        exact fun _ => ⟨name, a, by simp [credentials], ha, by simp [credentials, hh]⟩
      · simpa [hq] using hb₁ q
    · push_neg at hm
      rw [handleLoginRequest_unmatched s hv hm]
      exact keeps_boundKept_acceptLogin .normal r name _ q (hb₁ q)
  · rw [handleLoginRequest_normal_invalid s hv]
    simpa using hb₁ q

/-- The player invariant and every player's bound, for fixed phases, carried from the state a
handler starts in to the one it leaves. -/
def BoundCarried (cfg : Config) (ph : Nat → Phase) (s s' : LoginServer) : Prop :=
  PlayerInv cfg ph s.roster ∧ (∀ q, (s.player q).Bound cfg) →
    PlayerInv cfg ph s'.roster ∧ ∀ q, (s'.player q).Bound cfg

theorem isFrame_boundCarried : IsFrame (BoundCarried cfg ph) :=
  ⟨fun _ h => h, fun h₁ h₂ h => h₂ (h₁ h), fun _ _ h => h⟩

/-- A change of a player that keeps what the roster reads of it and its credentials. -/
theorem keeps_boundCarried_updatePlayer {f : Player → Player} (hcore : ∀ p, (f p).core = p.core)
    (hf : ∀ p, (f p).credentialsOf = p.credentialsOf) :
    Keeps (BoundCarried cfg ph) (updatePlayer r f) := fun s ⟨hi, hb⟩ =>
  ⟨objectFrame_playersFrame.updatePlayer r f hcore s ▸ hi,
    fun q => keeps_boundKept_updatePlayer r hf s q (hb q)⟩

/-- A request of a connected player keeps the invariant and the bounds when every external call
returns. -/
theorem keeps_boundCarried_handleRequest (hr : ph r = .connected) (request : Request) :
    Keeps (BoundCarried cfg ph) (handleRequest cfg .normal r request) := by
  have h : IsFrame (BoundCarried cfg ph) := isFrame_boundCarried
  refine keeps_get_bind fun s => ?_
  rcases hst : (s.player r).state with _ | _ | _ | _
  · exact Keeps.throw h _ s
  · cases request
    · exact Keeps.of_recorded h (keeps_handleA01bc _ _) s
    · exact Keeps.call h _ _ s
    · exact fun ⟨hi, hb⟩ => ⟨hi.login hr hst _ _, hi.bound_login hr hst hb _ _⟩
    · exact Keeps.throw h _ s
  · exact Keeps.call h _ _ s
  · exact Keeps.throw h _ s

theorem keeps_boundCarried_handleClientMessage (hr : ph r = .connected) (clientSeq : Nat)
    (requests : List Request) :
    Keeps (BoundCarried cfg ph) (handleClientMessage cfg .normal r clientSeq requests) :=
  Keeps.bind isFrame_boundCarried (keeps_boundCarried_updatePlayer (fun _ => rfl) fun _ => rfl)
    fun _ => Keeps.forM isFrame_boundCarried fun _ => keeps_boundCarried_handleRequest hr _

end Login

/-! ### In every reachable world -/

/-- An auth-code request: its `add_account` writes the account store. -/
def Message.writesAccounts : Message → Bool
  | .authCodeRequest .. => true
  | _ => false

/-- The runs in which every external call returns and no auth code is requested, so that the
account store stays the one the logins read. -/
def storeKeptRuns (m : Message) (out : Outside) : Prop := out = .normal ∧ m.writesAccounts = false


section Reachable

variable {cfg : Config}

/-- Every message in the transport's order keeps every player's bound when every external call
returns. -/
theorem PlayerInv.bound_step {w : World} {m : Message}
    (hi : PlayerInv cfg (playerPhase w.phase) w.server.roster)
    (hb : ∀ q, (w.server.player q).Bound cfg) (hm : m.admissible w.phase = true) (q : Nat) :
    ((w.next cfg .normal m).server.player q).Bound cfg := by
  cases hp : m.touchesPlayers
  · have h := (keeps_teamsOnly cfg .normal m hp w.server).2 q
    simp only [World.next]
    rw [h]
    exact hb q
  cases m with
  | peerConnected p =>
    cases p <;> simp only [Message.touchesPlayers, reduceCtorEq] at hp
    exact keeps_boundKept_connectPlayer .normal _ w.server q (hb q)
  | peerDisconnected p =>
    cases p <;> simp only [Message.touchesPlayers, reduceCtorEq] at hp
    exact keeps_boundKept_disconnectPlayer .normal _ w.server q (hb q)
  | loginProtocol r clientSeq requests =>
    exact (keeps_boundCarried_handleClientMessage (by simpa [Message.admissible] using hm)
      clientSeq requests w.server ⟨hi, hb⟩).2 q
  | _ => simp [Message.touchesPlayers] at hp

theorem Reachable.bound {w : World} (hw : Reachable cfg storeKeptRuns w) (q : Nat) :
    (w.server.player q).Bound cfg := by
  induction hw generalizing q with
  | initial => exact Player.bound_of_unregistered rfl
  | step hw hm hout ih =>
    obtain ⟨rfl, -⟩ := hout
    exact (hw.mono fun _ _ h => h.1).playerInv.bound_step ih hm q

end Reachable

/-- In every world that the transport's order reaches with every external call returning and no
auth code requested, a registered player, connected or gone, holds its login name's account and
that account's password hash: it was registered by a login whose hash matched. -/
theorem registered_player_holds_account_hash (cfg : Config) (w : World)
    (hw : Reachable cfg storeKeptRuns w) (r : Nat) (hreg : (w.server.player r).registered = true) :
    ∃ n a, (w.server.player r).loginName = some n ∧ cfg.accounts n = some a ∧
      (w.server.player r).passwordHash = some a.passwordHash :=
  hw.bound r hreg

/-- Alice, registered in `sampleWorld`, holds her account's password hash. -/
theorem sampleWorld_alice_holds_hash :
    Reachable sampleConfig storeKeptRuns sampleWorld ∧ (sampleWorld.server.player 2).registered = true ∧
      ∃ n a, (sampleWorld.server.player 2).loginName = some n ∧ sampleConfig.accounts n = some a ∧
        (sampleWorld.server.player 2).passwordHash = some a.passwordHash :=
  have hw : Reachable sampleConfig storeKeptRuns sampleWorld :=
    @Reachable.foldl_next sampleConfig storeKeptRuns _ .initial sampleRun
      (fun m hm => ⟨rfl, by revert m; decide⟩) (by decide)
  ⟨hw, by decide, registered_player_holds_account_hash sampleConfig sampleWorld hw 2 (by decide)⟩

/-! ### Authenticated players have a valid login name and a display name -/

/-- Player `p`, when authenticated, has a display name and a login name that `validate_username`
accepts. -/
def Player.Named (rules : NameRules) (p : Player) : Prop :=
  p.state = some .authenticated →
    p.displayName.isSome ∧ ∃ n, p.loginName = some n ∧ validateUsername rules n = none

/-- Every player's naming is kept. -/
def NamedKept (rules : NameRules) (s s' : LoginServer) : Prop :=
  ∀ q, (s.player q).Named rules → (s'.player q).Named rules

section Named

variable {cfg : Config} (out : Outside) (r : Nat)

theorem isFrame_namedKept : IsFrame (NamedKept cfg.rules) :=
  ⟨fun _ _ h => h, fun h₁ h₂ q h => h₂ q (h₁ q h), fun _ _ _ h => h⟩

/-- A change of player `r` that keeps its naming. -/
theorem namedKept_updatePlayer (s : LoginServer) {f : Player → Player}
    (hf : (s.player r).Named cfg.rules → (f (s.player r)).Named cfg.rules) :
    NamedKept cfg.rules s (s.updatePlayer r f) :=
  fun q h => by
    rw [LoginServer.updatePlayer_player]
    split_ifs with hq
    · exact hf (hq ▸ h)
    · exact h

theorem keeps_namedKept_updatePlayer {f : Player → Player}
    (hf : ∀ p, p.Named cfg.rules → (f p).Named cfg.rules) :
    Keeps (NamedKept cfg.rules) (updatePlayer r f) :=
  fun s => namedKept_updatePlayer r s (hf _)

/-- The end of a login for a player with a login name that `validate_username` accepts keeps
every player's naming, whatever the world answers: it stores the display name before it sets the
state. -/
theorem namedKept_acceptLogin {s : LoginServer}
    (hl : ∃ n, (s.player r).loginName = some n ∧ validateUsername cfg.rules n = none)
    (name : String) : NamedKept cfg.rules s (resultState (acceptLogin cfg out r name s)) := by
  rcases acceptLogin_cases (rfl : acceptLogin cfg out r name s = _) with
    ⟨-, h⟩ | ⟨_, -, ⟨_, _, -, h⟩ | h⟩ <;> rw [h]
  · exact isFrame_namedKept.refl s
  · refine isFrame_namedKept.trans (namedKept_updatePlayer r s ?_) (isFrame_namedKept.record _ _)
    exact fun h hs => ⟨rfl, (h hs).2⟩
  · refine isFrame_namedKept.trans (namedKept_updatePlayer r s ?_) (isFrame_namedKept.record _ _)
    exact fun _ _ => ⟨rfl, hl⟩

/-- A re-key changes a unique id only. -/
theorem namedKept_rekey (s : LoginServer) (oldKey newId : Int) :
    NamedKept cfg.rules s (s.rekey oldKey newId r) :=
  fun q h => by
    rw [rekey_player]
    split_ifs with hq
    · exact hq ▸ h
    · exact h

/-- A login of an unauthenticated player keeps every player's naming, whatever the world answers:
the login name is stored before it is validated, and the state is set only after a name that
`validate_username` accepts. -/
theorem namedKept_handleLoginRequest {s : LoginServer}
    (hst : (s.player r).state = some .unauthenticated) (loginName : Option String)
    (passwordHash : Option (List UInt8)) :
    NamedKept cfg.rules s (resultState (handleLoginRequest cfg out r loginName passwordHash s)) := by
  rcases passwordHash with _ | hash
  · exact Keeps.call isFrame_namedKept _ _ s
  rcases loginName with _ | name
  · exact isFrame_namedKept.refl s
  have h₁ : NamedKept cfg.rules s (s.updatePlayer r (credentials name hash)) :=
    namedKept_updatePlayer r s fun _ hs => absurd (hst.symm.trans hs) (by simp)
  rcases hv : validateUsername cfg.rules name with _ | reason
  · have hl : ∀ s' : LoginServer, (s'.player r).loginName = some name →
        ∃ n, (s'.player r).loginName = some n ∧ validateUsername cfg.rules n = none :=
      fun _ h => ⟨name, h, hv⟩
    rw [handleLoginRequest_valid hv, Handler.bind_apply]
    rcases checkAccount_cases (rfl : checkAccount cfg r name hash
        (s.updatePlayer r (credentials name hash)) = _) with
      h | ⟨_, h, -⟩ | ⟨_, _, r', -, -, -, -, -, h⟩ <;> simp only [h]
    · exact isFrame_namedKept.trans h₁ (namedKept_acceptLogin out r (hl _ (by simp [credentials])) name)
    · exact h₁
    · refine isFrame_namedKept.trans h₁ (isFrame_namedKept.trans ?_
        (namedKept_acceptLogin out r (hl _ ?_) name))
      · exact isFrame_namedKept.trans (namedKept_rekey r' _ _ _) (namedKept_updatePlayer r _ id)
      · by_cases hr : r = r' <;> simp [credentials, hr]
  · rw [handleLoginRequest_invalid hv]
    exact isFrame_namedKept.trans h₁
      (Keeps.of_recorded isFrame_namedKept (keeps_rejectLogin out r name) _)

theorem keeps_namedKept_handleRequest (request : Request) :
    Keeps (NamedKept cfg.rules) (handleRequest cfg out r request) := by
  have h : IsFrame (NamedKept cfg.rules) := isFrame_namedKept
  refine keeps_get_bind fun s => ?_
  rcases hst : (s.player r).state with _ | _ | _ | _
  · exact Keeps.throw h _ s
  · cases request
    · exact Keeps.of_recorded h (keeps_handleA01bc _ _) s
    · exact Keeps.call h _ _ s
    · exact namedKept_handleLoginRequest out r hst _ _
    · exact Keeps.throw h _ s
  · exact Keeps.call h _ _ s
  · exact Keeps.throw h _ s

/-- Every message keeps every player's naming, whatever the world answers. -/
theorem keeps_namedKept (m : Message) : Keeps (NamedKept cfg.rules) (handleMessage cfg out m) := by
  have h : IsFrame (NamedKept cfg.rules) := isFrame_namedKept
  cases hp : m.touchesPlayers
  · exact Keeps.mono (fun _ _ hs q hq => by rw [hs.2 q]; exact hq) (keeps_teamsOnly cfg out m hp)
  cases m with
  | peerConnected p =>
    cases p <;> simp only [Message.touchesPlayers, reduceCtorEq] at hp
    exact keeps_connectPlayer h out _ (fun _ => keeps_namedKept_updatePlayer _ fun _ h => h)
      (keeps_namedKept_updatePlayer _ fun _ _ hs => by simp at hs) fun _ _ _ h => h
  | peerDisconnected p =>
    cases p <;> simp only [Message.touchesPlayers, reduceCtorEq] at hp
    exact keeps_disconnectPlayer h out _ (keeps_namedKept_updatePlayer _ fun _ _ hs => by simp at hs)
      fun _ _ _ h => h
  | loginProtocol r clientSeq requests =>
    exact Keeps.bind h (keeps_namedKept_updatePlayer _ fun _ h => h) fun _ =>
      Keeps.forM h fun _ => keeps_namedKept_handleRequest _ _ _
  | _ => simp [Message.touchesPlayers] at hp

/-- In every reachable world, whatever the world answers, every authenticated player has a
display name and a login name that `validate_username` accepts. -/
theorem Reachable.named {admits : Message → Outside → Prop} {w : World}
    (hw : Reachable cfg admits w) (q : Nat) : (w.server.player q).Named cfg.rules := by
  induction hw generalizing q with
  | initial => exact fun h => nomatch h
  | step _ _ _ ih => exact keeps_namedKept _ _ _ q (ih q)

end Named

/-- Whatever the world answers and in whatever order the messages come, a run from a state in which
every authenticated player has a display name and an accepted login name ends in such a state: a
login sets `AuthenticatedState` only after storing both. -/
theorem run_keeps_authenticated_named (cfg : Config) (s : LoginServer)
    (queue : List (Message × Outside))
    (h : ∀ q, (s.player q).state = some .authenticated → (s.player q).displayName.isSome ∧
      ∃ n, (s.player q).loginName = some n ∧ validateUsername cfg.rules n = none) (q : Nat) :
    let p := (LoginServer.run cfg s queue).2.state.player q
    p.state = some .authenticated →
      p.displayName.isSome ∧ ∃ n, p.loginName = some n ∧ validateUsername cfg.rules n = none :=
  Keeps.run isFrame_namedKept (fun d _ => keeps_namedKept d.2 d.1) s q (h q)

/-- From the initial state, `sampleRun` with every external call returning leaves Alice, player 2,
authenticated with a display name and an accepted login name. -/
theorem sampleRun_alice_named :
    let p := (LoginServer.run sampleConfig .initial (sampleRun.map fun m => (m, .normal))).2.state.player 2
    (∀ q, (LoginServer.initial.player q).state = some .authenticated →
      (LoginServer.initial.player q).displayName.isSome ∧ ∃ n,
        (LoginServer.initial.player q).loginName = some n ∧ validateUsername sampleConfig.rules n = none) ∧
    (p.state = some .authenticated →
      p.displayName.isSome ∧ ∃ n, p.loginName = some n ∧ validateUsername sampleConfig.rules n = none) ∧
    p.state = some .authenticated :=
  ⟨(fun _ h => nomatch h),
    run_keeps_authenticated_named sampleConfig .initial _ (fun _ h => nomatch h) 2, by decide⟩

end Taserver
