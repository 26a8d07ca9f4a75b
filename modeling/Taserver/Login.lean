import Taserver.Frames

/-! A login request of an unauthenticated player, as a whole. When an external call raises, the
handler stops where it is: a failure before the display name is chosen leaves the registry and
the player as they were, but a failure of `player.load()`, of the success reply or of
`set_state(AuthenticatedState)` comes after the re-key and the display name and undoes neither.
When every external call returns, a login ends in one of three ways: the rejection of an invalid
name, the re-key of a player whose credentials match an account, or a display name chosen against
the names of all stored players, the player's own included. -/

namespace Taserver

namespace LoginServer

theorem namesInUse_updatePlayer (s : LoginServer) (r : Nat) {f : Player → Player}
    (hf : ∀ p, (f p).displayName = p.displayName) : (s.updatePlayer r f).namesInUse = s.namesInUse := by
  simp only [namesInUse, updatePlayer_players, updatePlayer_playerObjects]
  congr 1
  funext q
  split <;> simp_all

end LoginServer

section Stages

variable {cfg : Config} {out : Outside} {r : Nat} {name : String} {hash : List UInt8}

/-- The end of a login when every external call returns. -/
theorem acceptLogin_normal (s : LoginServer) :
    acceptLogin cfg .normal r name s =
      match chooseDisplayName name (s.player r).registered s.namesInUse cfg.rules.maxNameLength with
      | none => .error .assertion s
      | some d => .ok () ((s.updatePlayer r fun p =>
          { p with displayName := some d, state := some .authenticated }).record (acceptCalls r)) := by
  rcases acceptLogin_cases (rfl : acceptLogin cfg .normal r name s = _) with
    ⟨hd, h⟩ | ⟨d, hd, ⟨c, cs, -, h⟩ | h⟩
  · rw [h, hd]
  · simp [acceptLogin, hd, setState] at h
  · rw [h, hd]

/-- A rejected name, when every external call returns: the reply is recorded, and the login name
and password hash are stored. -/
theorem handleLoginRequest_normal_invalid {reason : String} (s : LoginServer)
    (hv : validateUsername cfg.rules name = some reason) :
    resultState (handleLoginRequest cfg .normal r (some name) (some hash) s) =
      (s.updatePlayer r (credentials name hash)).record [.send (.player r) .loginRejected] := by
  rw [handleLoginRequest_invalid hv, rejectLogin]
  by_cases hl : name.data.all (fun c => c.toNat < 256) = true <;> simp [hl]

/-- A valid name whose credentials match no account: the end of the login, after the login name
and password hash are stored. -/
theorem handleLoginRequest_unmatched (s : LoginServer) (hv : validateUsername cfg.rules name = none)
    (hm : ∀ a, cfg.accounts name = some a → a.passwordHash ≠ hash) :
    handleLoginRequest cfg out r (some name) (some hash) s =
      acceptLogin cfg out r name (s.updatePlayer r (credentials name hash)) := by
  rw [handleLoginRequest_valid hv, Handler.bind_apply]
  rcases ha : cfg.accounts name with _ | a
  · simp [checkAccount, ha]
  · simp [checkAccount, ha, Ne.symm (hm a ha)]

/-- Credentials that match an account whose id is free: the player is moved from its key to the
account's id and marked registered, then the login ends. -/
theorem handleLoginRequest_matched {a : Account} {k₀ : Int} (s : LoginServer)
    (hv : validateUsername cfg.rules name = none) (ha : cfg.accounts name = some a)
    (hh : a.passwordHash = hash) (hfree : a.uniqueId ∉ s.players.keys)
    (hk : (s.player r).uniqueId = some k₀) (hr : s.players.get? k₀ = some r) :
    handleLoginRequest cfg out r (some name) (some hash) s =
      acceptLogin cfg out r name
        ((((s.updatePlayer r (credentials name hash)).rekey k₀ a.uniqueId r).updatePlayer r
          fun p => { p with registered := true })) := by
  subst hh
  rw [handleLoginRequest_valid hv, Handler.bind_apply]
  have hc : changePlayerUniqueId (some k₀) a.uniqueId (s.updatePlayer r (credentials name a.passwordHash)) =
      .ok () ((s.updatePlayer r (credentials name a.passwordHash)).rekey k₀ a.uniqueId r) :=
    changePlayerUniqueId_of_get hfree hr
  simp [checkAccount, ha, Handler.bind_apply, hk, credentials, hc]

/-- Credentials that match an account whose id is taken: `AlreadyLoggedInError`, after the login
name and password hash are stored. -/
theorem handleLoginRequest_taken {a : Account} (s : LoginServer)
    (hv : validateUsername cfg.rules name = none) (ha : cfg.accounts name = some a)
    (hh : a.passwordHash = hash) (htaken : a.uniqueId ∈ s.players.keys) :
    handleLoginRequest cfg out r (some name) (some hash) s =
      .error .alreadyLoggedIn (s.updatePlayer r (credentials name hash)) := by
  subst hh
  rw [handleLoginRequest_valid hv, Handler.bind_apply]
  simp [checkAccount, ha, Handler.bind_apply,
    changePlayerUniqueId_of_mem (show a.uniqueId ∈
      (s.updatePlayer r (credentials name a.passwordHash)).players.keys from htaken)]

/-- `AlreadyLoggedInError` comes only from a valid name whose credentials match an account whose
id is in the registry. -/
theorem handleLoginRequest_alreadyLoggedIn {s s' : LoginServer}
    (h : handleLoginRequest cfg out r (some name) (some hash) s = .error .alreadyLoggedIn s') :
    validateUsername cfg.rules name = none ∧ ∃ a, cfg.accounts name = some a ∧
      a.passwordHash = hash ∧ a.uniqueId ∈ s.players.keys := by
  rcases hv : validateUsername cfg.rules name with _ | reason
  · rw [handleLoginRequest_valid hv] at h
    rcases Handler.bind_eq_error _ h with h₁ | ⟨_, s₂, -, h₂⟩
    · rcases checkAccount_cases h₁ with
        h₁ | ⟨_, h₁, ⟨-, a, ha, hh, htaken⟩ | rfl⟩ | ⟨_, _, _, -, -, -, -, -, h₁⟩ <;> cases h₁
      exact ⟨rfl, a, ha, hh.symm, htaken⟩
    · rcases acceptLogin_cases h₂ with ⟨-, h₂⟩ | ⟨_, -, ⟨_, _, -, h₂⟩ | h₂⟩ <;> cases h₂
  · rw [handleLoginRequest_invalid hv, rejectLogin] at h
    rcases Handler.bind_eq_error _ h with h₁ | ⟨_, _, -, h₂⟩
    · simp only [call_apply] at h₁
      split at h₁ <;> cases h₁
    · split at h₂ <;> cases h₂

end Stages

/-! ### A login that raises -/

/-- What a login that raises must leave as it was, by spec 4.3: the player registry, and the
unique id, registered flag, display name and state of player `r`. -/
def Untouched (r : Nat) (s s' : LoginServer) : Prop :=
  s'.players = s.players ∧ (s'.player r).uniqueId = (s.player r).uniqueId ∧
    (s'.player r).registered = (s.player r).registered ∧
    (s'.player r).displayName = (s.player r).displayName ∧ (s'.player r).state = (s.player r).state

theorem Untouched.refl (r : Nat) (s : LoginServer) : Untouched r s s :=
  ⟨rfl, rfl, rfl, rfl, rfl⟩

theorem untouched_credentials (r : Nat) (s : LoginServer) (name : String) (hash : List UInt8)
    (cs : List Call) : Untouched r s ((s.updatePlayer r (credentials name hash)).record cs) := by
  simp [Untouched, credentials]

/-- A login raises with nothing of `Untouched` changed, or in one of the external calls at its end;
the player's state is unchanged either way. -/
theorem handleLoginRequest_error_cases {cfg : Config} {out : Outside} {r : Nat}
    {loginName : Option String} {passwordHash : Option (List UInt8)} {s s' : LoginServer} {e : Error}
    (h : handleLoginRequest cfg out r loginName passwordHash s = .error e s') :
    Untouched r s s' ∨
      ((∃ c ∈ acceptCalls r, e = .external c) ∧ (s'.player r).state = (s.player r).state) := by
  rcases passwordHash with _ | hash
  · simp only [handleLoginRequest, call_apply] at h
    split at h <;> cases h
    exact .inl (Untouched.refl r s)
  rcases loginName with _ | name
  · cases h
    exact .inl (Untouched.refl r s)
  set s₁ := s.updatePlayer r (credentials name hash)
  rcases hv : validateUsername cfg.rules name with _ | reason
  · rw [handleLoginRequest_valid hv] at h
    rcases Handler.bind_eq_error _ h with h₁ | ⟨_, s₂, h₁, h₂⟩
    · rcases checkAccount_cases h₁ with h₁ | ⟨_, h₁, -⟩ | ⟨_, _, _, -, -, -, -, -, h₁⟩ <;> cases h₁
      exact .inl (untouched_credentials r s name hash [])
    rcases checkAccount_cases h₁ with h₁ | ⟨_, h₁, -⟩ | ⟨_, _, w, -, -, -, -, -, h₁⟩ <;> cases h₁
    · rcases acceptLogin_cases h₂ with ⟨-, h₂⟩ | ⟨d, -, ⟨c, cs, hc, h₂⟩ | h₂⟩ <;> cases h₂
      · exact .inl (untouched_credentials r s name hash [])
      · exact .inr ⟨⟨c, hc, rfl⟩, by simp [credentials]⟩
    · rcases acceptLogin_cases h₂ with ⟨hd, h₂⟩ | ⟨d, -, ⟨c, cs, hc, h₂⟩ | h₂⟩ <;> cases h₂
      · simp at hd
      · refine .inr ⟨⟨c, hc, rfl⟩, ?_⟩
        by_cases hw : r = w <;> simp [credentials, hw]
  · rw [handleLoginRequest_invalid hv] at h
    obtain ⟨cs, hcs⟩ : ∃ cs, resultState (rejectLogin out r name s₁) = s₁.record cs :=
      rejectLogin_state
    rw [h] at hcs
    cases hcs
    exact .inl (untouched_credentials r s name hash cs)

/-- A login that raises leaves the player's state as it was, and unless it raised in `load()`, the
success reply or `set_state`, also the registry and the player's id, flag and display name; those
three calls come after the re-key and the display name, which stay. -/
theorem handleLoginRequest_error_atomic (cfg : Config) (out : Outside) (r : Nat)
    (loginName : Option String) (passwordHash : Option (List UInt8)) (s s' : LoginServer) (e : Error)
    (h : handleLoginRequest cfg out r loginName passwordHash s = .error e s') :
    (s'.player r).state = (s.player r).state ∧
      ((∀ c ∈ acceptCalls r, e ≠ .external c) →
        s'.players = s.players ∧ (s'.player r).uniqueId = (s.player r).uniqueId ∧
        (s'.player r).registered = (s.player r).registered ∧
        (s'.player r).displayName = (s.player r).displayName) := by
  rcases handleLoginRequest_error_cases h with ⟨hp, hu, hreg, hd, hst⟩ | ⟨⟨c, hc, rfl⟩, hst⟩
  · exact ⟨hst, fun _ => ⟨hp, hu, hreg, hd⟩⟩
  · exact ⟨hst, fun hne => absurd rfl (hne c hc)⟩

/-- A configuration for concrete runs: names of 2 to 15 printable ASCII characters, and one
account, `alice`, with password hash `[1]` and unique id 5. -/
def sampleConfig : Config where
  rules := ⟨2, 15, fun bs => bs.all fun b => 32 ≤ b && b ≤ 126⟩
  accounts := fun n => if n = "alice" then some ⟨[1], 5⟩ else none
  protocolVersion := ⟨(0, 1, 0), none⟩

/-- The login server after player 0 connected, every external call returning. -/
def connectedGuest : LoginServer :=
  resultState (handleMessage sampleConfig .normal (.peerConnected (.player 0)) .initial)

/-- A login with a name past Latin-1 is rejected, and its log line raises: nothing changes. -/
theorem non_latin1_login_untouched :
    Untouched 0 connectedGuest
      (resultState (handleLoginRequest sampleConfig .normal 0 (some "ĀĀ") (some [1]) connectedGuest)) := by
  obtain ⟨hst, hrest⟩ := handleLoginRequest_error_atomic sampleConfig .normal 0 (some "ĀĀ")
    (some [1]) connectedGuest _ .unicodeEncode rfl
  obtain ⟨hp, hu, hreg, hd⟩ := hrest (by decide)
  exact ⟨hp, hu, hreg, hd, hst⟩

/-- When `player.load()` raises in alice's login, the guest that logged in stays moved to alice's
id 5, registered, with display name `alice`. -/
theorem login_load_failure_keeps_rekey :
    ∃ s', handleLoginRequest sampleConfig ⟨fun c => decide (c = .load 0), []⟩ 0 (some "alice")
        (some [1]) connectedGuest = .error (.external (.load 0)) s' ∧
      connectedGuest.players.items = [(10000000, 0)] ∧ (connectedGuest.player 0).registered = false ∧
      s'.players.items = [(5, 0)] ∧ (s'.player 0).uniqueId = some 5 ∧
      (s'.player 0).registered = true ∧ (s'.player 0).displayName = some "alice" :=
  ⟨_, rfl, by decide⟩

/-! ### A login when every external call returns -/

/-- An unregistered stored player's login in a keyed registry, every external call returning: an
invalid name changes nothing; matching credentials with a free id move the player there,
registered and authenticated; other credentials give it the name chosen against every stored
name, its own included. No other player changes. -/
theorem loginRequest_postcondition (cfg : Config) (r : Nat) (k₀ : Int) (s : LoginServer)
    (name : String) (hash : List UInt8)
    (hkey : ∀ k q, s.players.get? k = some q → (s.player q).uniqueId = some k)
    (hr : s.players.get? k₀ = some r) (hreg : (s.player r).registered = false) :
    let res := handleLoginRequest cfg .normal r (some name) (some hash) s
    let s' := resultState res
    ((validateUsername cfg.rules name).isSome →
      s'.players = s.players ∧ (s'.player r).uniqueId = (s.player r).uniqueId ∧
      (s'.player r).registered = false ∧ (s'.player r).displayName = (s.player r).displayName ∧
      (s'.player r).state = (s.player r).state) ∧
    (∀ a, validateUsername cfg.rules name = none → cfg.accounts name = some a →
      a.passwordHash = hash → a.uniqueId ∉ s.players.keys →
      res = .ok () s' ∧ s'.players.get? a.uniqueId = some r ∧ k₀ ∉ s'.players.keys ∧
      (s'.player r).uniqueId = some a.uniqueId ∧ (s'.player r).registered = true ∧
      (s'.player r).displayName = some name ∧ (s'.player r).state = some .authenticated) ∧
    (validateUsername cfg.rules name = none →
      (∀ a, cfg.accounts name = some a → a.passwordHash ≠ hash) →
      s'.players = s.players ∧ (s'.player r).uniqueId = (s.player r).uniqueId ∧
      (s'.player r).registered = false ∧
      match chooseDisplayName name false s.namesInUse cfg.rules.maxNameLength with
      | some d => res = .ok () s' ∧ (s'.player r).displayName = some d ∧
          (s'.player r).state = some .authenticated
      | none => res = .error .assertion s' ∧
          (s'.player r).displayName = (s.player r).displayName ∧
          (s'.player r).state = (s.player r).state) ∧
    (∀ q, q ≠ r → (s'.player q).uniqueId = (s.player q).uniqueId ∧
      (s'.player q).displayName = (s.player q).displayName ∧
      ∀ k, s'.players.get? k = some q ↔ s.players.get? k = some q) := by
  intro res s'
  have hk₀ : (s.player r).uniqueId = some k₀ := hkey k₀ r hr
  have hnames : (s.updatePlayer r (credentials name hash)).namesInUse = s.namesInUse :=
    s.namesInUse_updatePlayer r fun _ => rfl
  rcases hv : validateUsername cfg.rules name with _ | reason
  · by_cases hm : ∃ a, cfg.accounts name = some a ∧ a.passwordHash = hash
    · obtain ⟨a, ha, hh⟩ := hm
      by_cases hfree : a.uniqueId ∈ s.players.keys
      · -- the account's id is taken: `AlreadyLoggedInError` after the credentials are stored
        have hs' : s' = s.updatePlayer r (credentials name hash) := by
          simp only [s', res, handleLoginRequest_taken s hv ha hh hfree, resultState_error]
        refine ⟨by simp, fun a' _ ha' _ hfree' => ?_, fun _ hm => absurd hh (hm a ha), fun q hq => ?_⟩
        · cases ha.symm.trans ha'
          exact absurd hfree hfree'
        · simp [hs', hq]
      · -- the re-key
        have hlen := sliceTo_of_length_le (length_le_of_validateUsername hv)
        have hres : res = .ok () (((((s.updatePlayer r (credentials name hash)).rekey k₀ a.uniqueId
            r).updatePlayer r fun p => { p with registered := true }).updatePlayer r fun p =>
              { p with displayName := some name, state := some .authenticated }).record
                (acceptCalls r)) := by
          simp [res, handleLoginRequest_matched s hv ha hh hfree hk₀ hr, acceptLogin_normal, hlen]
        have hne : k₀ ≠ a.uniqueId := fun h => hfree (h ▸ Dict.mem_keys_of_mem (Dict.get?_eq_some.1 hr))
        refine ⟨by simp, fun a' _ ha' _ _ => ?_, fun _ hm => absurd hh (hm a ha), fun q hq => ?_⟩
        · cases ha.symm.trans ha'
          simp [s', hres, get?_rekey_new, not_mem_rekey_old _ _ _ _ hne, credentials]
        · simp [s', hres, hq,
            get?_rekey_other (s.updatePlayer r (credentials name hash)) k₀ a.uniqueId r hfree hr hq]
    · -- no account matches: the guest's display name
      push_neg at hm
      have hres : res = acceptLogin cfg .normal r name (s.updatePlayer r (credentials name hash)) :=
        handleLoginRequest_unmatched s hv hm
      rw [acceptLogin_normal] at hres
      simp only [LoginServer.updatePlayer_player, if_pos, credentials, hreg, hnames] at hres
      refine ⟨by simp, fun a _ ha hh _ => absurd hh (hm a ha), fun _ _ => ?_, fun q hq => ?_⟩
      · rcases hd : chooseDisplayName name false s.namesInUse cfg.rules.maxNameLength with _ | d <;>
          simp only [hd] at hres <;> simp [s', hres, hreg, credentials]
      · rcases hd : chooseDisplayName name false s.namesInUse cfg.rules.maxNameLength with _ | d <;>
          simp only [hd] at hres <;> simp [s', hres, hq]
  · -- an invalid name
    have hs' : s' = (s.updatePlayer r (credentials name hash)).record
        [.send (.player r) .loginRejected] := handleLoginRequest_normal_invalid s hv
    refine ⟨fun _ => ?_, fun _ h => by simp [hv] at h, fun h => by simp [hv] at h, fun q hq => ?_⟩
    · simp [hs', credentials, hreg]
    · simp [hs', hq]

/-- Player 0 stored and unauthenticated under id 10,000,000, with a display name `unvrf-bob` left
from before. -/
def staleGuest : LoginServer :=
  connectedGuest.updatePlayer 0 fun p => { p with displayName := some "unvrf-bob" }

theorem staleGuest_keyed (k : Int) (q : Nat) (h : staleGuest.players.get? k = some q) :
    (staleGuest.player q).uniqueId = some k := by
  have hitems : staleGuest.players.items = [(10000000, 0)] := by decide
  rw [Dict.get?_eq_some, hitems, List.mem_singleton, Prod.mk.injEq] at h
  obtain ⟨rfl, rfl⟩ := h
  decide

/-- The guest's login as `bob` without an account gets `unv02-bob`. -/
theorem staleGuest_login_display_name :
    ((resultState (handleLoginRequest sampleConfig .normal 0 (some "bob") (some [1])
      staleGuest)).player 0).displayName = some "unv02-bob" := by
  have h := (loginRequest_postcondition sampleConfig 0 10000000 staleGuest "bob" [1]
    staleGuest_keyed (by decide) (by decide)).2.2.1 (by decide)
    fun a ha => by simp [sampleConfig] at ha
  have hd : chooseDisplayName "bob" false staleGuest.namesInUse sampleConfig.rules.maxNameLength =
      some "unv02-bob" := by decide
  rw [hd] at h
  exact h.2.2.2.2.1

/-- The name of a guest logging in is chosen against its own stale display name too: the guest
gets `unv02-bob`, where the other players' names, of which there are none, leave `unvrf-bob`
free. -/
theorem login_avoids_own_display_name :
    staleGuest.players.get? 10000000 = some 0 ∧ (staleGuest.player 0).registered = false ∧
      ((resultState (handleLoginRequest sampleConfig .normal 0 (some "bob") (some [1])
        staleGuest)).player 0).displayName = some "unv02-bob" ∧
      chooseDisplayName "bob" false [] sampleConfig.rules.maxNameLength = some "unvrf-bob" := by
  decide

end Taserver
