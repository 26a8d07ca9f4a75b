import Taserver.World

/-! The invariant of the player registry and of the connected players' sessions, over the runs in
which every external call returns. Every key maps to the player whose unique id it is, and the
stored players are the connected ones. A connected player is either unauthenticated, unregistered
and without a display name, or authenticated; a registered one is the account of its login name,
under the account's id, with its login name as display name; a guest's id is at least 10,000,000,
and no two connected guests have the same display name.

The invariant is stated player by player (`PlayerInvAt`), so that a step that changes one player
(`AgreeExcept`) needs a proof for that player only (`PlayerInv.of_agree`). -/

namespace Taserver

/-- The transport's phase of player `r`. -/
def playerPhase (phase : Peer → Phase) (r : Nat) : Phase := phase (.player r)

section Invariant

variable (cfg : Config)

/-- What the invariant says of player `r`, over the players' phases and the roster. -/
structure PlayerInvAt (ph : Nat → Phase) (v : Roster) (r : Nat) : Prop where
  /-- A key that maps to `r` is its unique id. -/
  keyed : ∀ k, v.players.get? k = some r → v.uniqueId r = some k
  /-- `r` is stored exactly while it is connected. -/
  held : r ∈ v.players.values ↔ ph r = .connected
  /-- Before its connect, `r` is not registered and has no display name. -/
  fresh : ph r = .fresh → v.registered r = false ∧ v.displayName r = none
  /-- Connected, `r` is unauthenticated, unregistered and without a display name, or it is
  authenticated. -/
  session : ph r = .connected →
    (v.state r = some .unauthenticated ∧ v.registered r = false ∧ v.displayName r = none) ∨
      v.state r = some .authenticated
  /-- Connected and registered, `r` is the account of its login name, under the account's id, with
  its login name as display name. -/
  registered : ph r = .connected → v.registered r = true →
    ∃ n a, v.loginName r = some n ∧ cfg.accounts n = some a ∧ v.uniqueId r = some a.uniqueId ∧
      v.displayName r = some n
  /-- Connected and unregistered, `r` has an id of at least 10,000,000. -/
  guest : ph r = .connected → v.registered r = false → ∃ k, v.uniqueId r = some k ∧ 10000000 ≤ k
  /-- Connected and unregistered, `r` shares its display name with no other connected guest. -/
  guestName : ph r = .connected → v.registered r = false → ∀ d, v.displayName r = some d →
    ∀ q, q ≠ r → ph q = .connected → v.registered q = false → v.displayName q ≠ some d

/-- The invariant of the player registry and the sessions: what it says of every player. -/
def PlayerInv (ph : Nat → Phase) (v : Roster) : Prop := ∀ r, PlayerInvAt cfg ph v r

/-- The players' phases and the roster agree except at player `r`. -/
structure AgreeExcept (r : Nat) (ph ph' : Nat → Phase) (v v' : Roster) : Prop where
  phase : ∀ q, q ≠ r → ph' q = ph q
  uniqueId : ∀ q, q ≠ r → v'.uniqueId q = v.uniqueId q
  loginName : ∀ q, q ≠ r → v'.loginName q = v.loginName q
  registered : ∀ q, q ≠ r → v'.registered q = v.registered q
  displayName : ∀ q, q ≠ r → v'.displayName q = v.displayName q
  state : ∀ q, q ≠ r → v'.state q = v.state q
  entries : ∀ k q, q ≠ r → (v'.players.get? k = some q ↔ v.players.get? k = some q)

variable {cfg}

/-- A step that changes player `r` alone keeps the invariant when it holds of `r` afterwards. -/
theorem PlayerInv.of_agree {ph ph' : Nat → Phase} {v v' : Roster} {r : Nat}
    (hi : PlayerInv cfg ph v) (ha : AgreeExcept r ph ph' v v') (hr : PlayerInvAt cfg ph' v' r) :
    PlayerInv cfg ph' v' := by
  intro q
  by_cases hq : q = r
  · exact hq ▸ hr
  obtain ⟨keyed, held, fresh, session, registered, guest, guestName⟩ := hi q
  rw [← ha.phase q hq, ← ha.uniqueId q hq, ← ha.loginName q hq, ← ha.registered q hq,
    ← ha.displayName q hq, ← ha.state q hq] at *
  refine ⟨fun k hk => keyed k ((ha.entries k q hq).1 hk), ?_, fresh, session, registered, guest,
    fun hc hg d hd q' hq' hc' hg' => ?_⟩
  · rw [← held, Dict.mem_values_iff_get?, Dict.mem_values_iff_get?]
    exact exists_congr fun k => ha.entries k q hq
  · by_cases hq'r : q' = r
    · subst hq'r
      exact fun hd' => hr.guestName hc' hg' d hd' q hq hc hg hd
    · rw [ha.displayName q' hq'r]
      exact guestName hc hg d hd q' hq' (ha.phase q' hq'r ▸ hc') (ha.registered q' hq'r ▸ hg')

/-- The players' phases and the roster agree except at player `r`, when every other player object
and every other player's registry entries are unchanged. -/
theorem AgreeExcept.of_player {ph ph' : Nat → Phase} {s s' : LoginServer} {r : Nat}
    (hph : ∀ q, q ≠ r → ph' q = ph q) (hobj : ∀ q, q ≠ r → s'.player q = s.player q)
    (hentries : ∀ k q, q ≠ r → (s'.players.get? k = some q ↔ s.players.get? k = some q)) :
    AgreeExcept r ph ph' s.roster s'.roster :=
  ⟨hph, fun q hq => by simp [hobj q hq], fun q hq => by simp [hobj q hq],
    fun q hq => by simp [hobj q hq], fun q hq => by simp [hobj q hq], fun q hq => by simp [hobj q hq],
    hentries⟩

/-- A stored player is stored under its unique id. -/
theorem PlayerInv.get?_uniqueId {ph : Nat → Phase} {s : LoginServer} {r : Nat}
    (hi : PlayerInv cfg ph s.roster) (hr : ph r = .connected) :
    ∃ k, s.players.get? k = some r ∧ (s.player r).uniqueId = some k := by
  obtain ⟨k, hk⟩ := Dict.mem_values_iff_get?.1 ((hi r).held.2 hr)
  exact ⟨k, hk, (hi r).keyed k hk⟩

end Invariant

/-! ### The invariant holds initially and after a player's connect and disconnect -/

section Steps

variable {cfg : Config} {phase : Peer → Phase} {s : LoginServer} {r : Nat}

theorem playerInv_initial : PlayerInv cfg (playerPhase World.initial.phase) LoginServer.initial.roster :=
  fun _ => ⟨fun _ hk => by simp [LoginServer.initial] at hk,
    by simp [LoginServer.initial, Dict.values, playerPhase, World.initial], fun _ => ⟨rfl, rfl⟩,
    (fun h => by cases h), (fun h => by cases h), (fun h => by cases h), (fun h => by cases h)⟩

theorem playerPhase_connected :
    playerPhase ((Message.peerConnected (.player r)).nextPhase phase) =
      Function.update (playerPhase phase) r .connected := by
  funext q
  by_cases hq : q = r <;> simp [playerPhase, Message.nextPhase, Function.update_apply, hq]

theorem playerPhase_disconnected :
    playerPhase ((Message.peerDisconnected (.player r)).nextPhase phase) =
      Function.update (playerPhase phase) r .gone := by
  funext q
  by_cases hq : q = r <;> simp [playerPhase, Message.nextPhase, Function.update_apply, hq]

/-- A player's connect keeps the invariant: its new id is free and at least 10,000,000. -/
theorem PlayerInv.connect (hi : PlayerInv cfg (playerPhase phase) s.roster)
    (hr : phase (.player r) = .fresh) :
    PlayerInv cfg (playerPhase ((Message.peerConnected (.player r)).nextPhase phase))
      (resultState (handleClientConnectedMessage .normal (.player r) s)).roster := by
  obtain ⟨s', hs', hplayers, hr', hothers⟩ := connectPlayer_normal s r
  rw [hs', resultState_ok, playerPhase_connected]
  set u := firstUnusedNumberAbove s.players.keys 10000000
  have hu : u ∉ s.players.keys := firstUnusedNumberAbove_not_mem _ _
  have hnot : r ∉ s.players.values := fun h => by
    simpa [playerPhase, hr] using (hi r).held.1 h
  obtain ⟨hreg, hdisp⟩ := (hi r).fresh hr
  simp only [LoginServer.roster_registered, LoginServer.roster_displayName] at hreg hdisp
  have hentries : ∀ k q, q ≠ r → (s'.players.get? k = some q ↔ s.players.get? k = some q) :=
    fun _ _ hq => hplayers ▸ Dict.get?_setItem_of_not_mem hu hq
  refine hi.of_agree (AgreeExcept.of_player (fun q hq => by simp [hq]) hothers hentries)
    ⟨fun k hk => ?_, ?_, fun h => by simp at h, fun _ => .inl ?_, fun _ h => ?_,
      fun _ _ => ⟨u, by simp [hr'], le_firstUnusedNumberAbove _ _⟩, fun _ _ d hd => ?_⟩
  · rw [LoginServer.roster_players, hplayers, Dict.get?_eq_some, Dict.mem_setItem] at hk
    rcases hk with ⟨rfl, -⟩ | ⟨-, hk⟩
    · simp [hr']
    · exact absurd (Dict.mem_values_of_mem hk) hnot
  · simpa [hplayers] using Dict.mem_values_setItem_self
  · simp_all [hr']
  · simp [hr', hreg] at h
  · simp [hr', hdisp] at hd

/-- A player's disconnect keeps the invariant: it deletes the entry of the player's own id. -/
theorem PlayerInv.disconnect (hi : PlayerInv cfg (playerPhase phase) s.roster)
    (hr : phase (.player r) = .connected) :
    PlayerInv cfg (playerPhase ((Message.peerDisconnected (.player r)).nextPhase phase))
      (resultState (handleClientDisconnectedMessage .normal (.player r) s)).roster := by
  obtain ⟨k, hk, huid⟩ := hi.get?_uniqueId hr
  obtain ⟨s', hs', hplayers, -, hothers⟩ :=
    disconnectPlayer_normal s r huid (Dict.mem_keys_of_mem (Dict.get?_eq_some.1 hk))
  rw [hs', resultState_ok, playerPhase_disconnected]
  have hgone : ∀ k', s'.players.get? k' ≠ some r := by
    intro k' hk'
    rw [hplayers, Dict.get?_erase] at hk'
    have h := (hi r).keyed k' hk'.2
    rw [LoginServer.roster_uniqueId, huid, Option.some.injEq] at h
    exact hk'.1 h.symm
  have hentries : ∀ k' q, q ≠ r → (s'.players.get? k' = some q ↔ s.players.get? k' = some q) := by
    intro k' q hq
    rw [hplayers, Dict.get?_erase]
    exact ⟨fun h => h.2, fun h => ⟨fun hk' => hq (Option.some.inj (h.symm.trans (hk' ▸ hk))), h⟩⟩
  refine hi.of_agree (AgreeExcept.of_player (fun q hq => by simp [hq]) hothers hentries)
    ⟨fun k' hk' => absurd hk' (hgone k'), ?_, fun h => by simp at h, fun h => by simp at h,
      fun h => by simp at h, fun h => by simp at h, fun h => by simp at h⟩
  simp only [LoginServer.roster_players, Function.update_same, Dict.mem_values_iff_get?]
  exact ⟨fun ⟨k', hk'⟩ => absurd hk' (hgone k'), fun h => by cases h⟩

/-! ### The invariant across a login -/

theorem LoginServer.mem_namesInUse {s : LoginServer} {d : String} :
    d ∈ s.namesInUse ↔ ∃ q ∈ s.players.values, (s.player q).displayName = some d := by
  simp [LoginServer.namesInUse]

variable {ph : Nat → Phase}

/-- Storing an unregistered player's login name and password hash keeps the invariant. -/
theorem PlayerInv.withCredentials (hi : PlayerInv cfg ph s.roster) (hreg : (s.player r).registered = false)
    (name : String) (hash : List UInt8) :
    PlayerInv cfg ph (s.updatePlayer r (credentials name hash)).roster := by
  have hv : (s.updatePlayer r (credentials name hash)).roster =
      { s.roster with loginName := Function.update s.roster.loginName r (some name) } := by
    simp only [LoginServer.roster, Roster.mk.injEq]
    refine ⟨rfl, ?_, ?_, ?_, ?_, ?_⟩ <;> funext q <;> by_cases hq : q = r <;>
      simp [hq, credentials, Function.update_apply]
  rw [hv]
  intro q
  obtain ⟨keyed, held, fresh, session, registered, guest, guestName⟩ := hi q
  refine ⟨keyed, held, fresh, session, fun hc hreg' => ?_, guest, guestName⟩
  by_cases hq : q = r
  · subst hq
    simp [hreg] at hreg'
  · simpa [Function.update_apply, hq] using registered hc hreg'

/-- An unregistered connected player without a display name that takes a name not in use and is
authenticated keeps the invariant. -/
theorem PlayerInv.acceptGuest (hi : PlayerInv cfg ph s.roster) (hr : ph r = .connected)
    (hreg : (s.player r).registered = false) {d : String} (hd : d ∉ s.namesInUse) :
    PlayerInv cfg ph (s.updatePlayer r fun p =>
      { p with displayName := some d, state := some .authenticated }).roster := by
  refine hi.of_agree (AgreeExcept.of_player (fun _ _ => rfl) (fun q (hq : q ≠ r) => by simp [hq])
    (fun _ _ _ => Iff.rfl)) ?_
  obtain ⟨keyed, held, -, -, -, guest, -⟩ := hi r
  refine ⟨by simpa using keyed, by simpa using held, fun h => by simp [hr] at h,
    fun _ => .inr (by simp), fun _ h => by simp [hreg] at h, fun _ _ => by simpa using guest hr hreg,
    fun _ _ d' hd' q hq hc _ hq' => ?_⟩
  simp only [LoginServer.roster_displayName, LoginServer.updatePlayer_player, if_pos,
    Option.some.injEq, if_neg hq] at hd' hq'
  subst hd'
  exact hd (LoginServer.mem_namesInUse.2 ⟨q, (hi q).held.2 hc, hq'⟩)

/-- Moving a connected player from its key to a free account id, registered and authenticated,
with its login name as display name, keeps the invariant. -/
theorem PlayerInv.register (hi : PlayerInv cfg ph s.roster) (hr : ph r = .connected) {k₀ : Int}
    {a : Account} {name : String} (hk₀ : s.players.get? k₀ = some r)
    (ha : cfg.accounts name = some a) (hfree : a.uniqueId ∉ s.players.keys)
    (hname : (s.player r).loginName = some name) :
    PlayerInv cfg ph ((((s.rekey k₀ a.uniqueId r).updatePlayer r fun p =>
      { p with registered := true }).updatePlayer r fun p =>
        { p with displayName := some name, state := some .authenticated })).roster := by
  refine hi.of_agree (AgreeExcept.of_player (fun _ _ => rfl) (fun q (hq : q ≠ r) => by simp [hq])
    fun k q hq => get?_rekey_other s k₀ a.uniqueId r hfree hk₀ hq) ?_
  have hold : ∀ k, (k, r) ∈ s.players.items → k = k₀ := fun k hk => by
    have h := (hi r).keyed k (Dict.get?_eq_some.2 hk)
    rw [(hi r).keyed k₀ hk₀, Option.some.injEq] at h
    exact h.symm
  refine ⟨fun k hk => ?_, ?_, fun h => by simp [hr] at h, fun _ => .inr (by simp),
    fun _ _ => ⟨name, a, by simpa using hname, ha, by simp, by simp⟩, fun _ h => by simp at h,
    fun _ h => by simp at h⟩
  · simp only [LoginServer.roster_players, LoginServer.updatePlayer_players, Dict.get?_eq_some,
      mem_rekey_players, true_and] at hk
    rcases hk with ⟨rfl, -⟩ | ⟨-, hne, hk⟩
    · simp
    · exact absurd (hold k hk) hne
  · simp only [LoginServer.roster_players, LoginServer.updatePlayer_players, hr, iff_true]
    exact Dict.mem_values_iff_get?.2 ⟨_, get?_rekey_new s k₀ a.uniqueId r⟩

/-- A login of a connected unauthenticated player keeps the invariant when every external call
returns. -/
theorem PlayerInv.login (hi : PlayerInv cfg ph s.roster) (hr : ph r = .connected)
    (hst : (s.player r).state = some .unauthenticated) (loginName : Option String)
    (passwordHash : Option (List UInt8)) :
    PlayerInv cfg ph (resultState (handleLoginRequest cfg .normal r loginName passwordHash s)).roster := by
  obtain ⟨-, hreg, -⟩ := ((hi r).session hr).resolve_right (by simp [hst])
  simp only [LoginServer.roster_registered] at hreg
  obtain ⟨k₀, hk₀, huid⟩ := hi.get?_uniqueId hr
  rcases passwordHash with _ | hash
  · simpa [handleLoginRequest] using hi
  rcases loginName with _ | name
  · simpa [handleLoginRequest] using hi
  have h₁ := hi.withCredentials hreg name hash
  rcases hv : validateUsername cfg.rules name with _ | reason
  · by_cases hm : ∃ a, cfg.accounts name = some a ∧ a.passwordHash = hash
    · obtain ⟨a, ha, hh⟩ := hm
      by_cases hfree : a.uniqueId ∈ s.players.keys
      · rwa [handleLoginRequest_taken s hv ha hh hfree, resultState_error]
      · rw [handleLoginRequest_matched s hv ha hh hfree huid hk₀, acceptLogin_normal]
        simpa [sliceTo_of_length_le (length_le_of_validateUsername hv)] using
          h₁.register hr hk₀ ha hfree (by simp [credentials])
    · push_neg at hm
      rw [handleLoginRequest_unmatched s hv hm, acceptLogin_normal]
      have hreg₁ : ((s.updatePlayer r (credentials name hash)).player r).registered = false := by
        simpa [credentials] using hreg
      rw [hreg₁]
      rcases hd : chooseDisplayName name false (s.updatePlayer r (credentials name hash)).namesInUse
        cfg.rules.maxNameLength with _ | d
      · exact h₁
      · exact h₁.acceptGuest hr hreg₁ (chooseDisplayName_not_mem hd)
  · rwa [handleLoginRequest_normal_invalid s hv]

/-- The invariant, for fixed phases, carried from the state a handler starts in to the one it
leaves. -/
def InvCarried (cfg : Config) (ph : Nat → Phase) (s s' : LoginServer) : Prop :=
  PlayerInv cfg ph s.roster → PlayerInv cfg ph s'.roster

theorem isFrame_invCarried : IsFrame (InvCarried cfg ph) :=
  ⟨fun _ h => h, fun h₁ h₂ h => h₂ (h₁ h), fun _ _ h => h⟩

theorem InvCarried.of_playersFrame {s s' : LoginServer} (h : PlayersFrame s s') :
    InvCarried cfg ph s s' :=
  fun hi => h ▸ hi

/-- A request of a connected player keeps the invariant when every external call returns. -/
theorem keeps_invCarried_handleRequest (hr : ph r = .connected) (request : Request) :
    Keeps (InvCarried cfg ph) (handleRequest cfg .normal r request) := by
  have h : IsFrame (InvCarried cfg ph) := isFrame_invCarried
  refine keeps_get_bind fun s => ?_
  rcases hst : (s.player r).state with _ | _ | _ | _
  · exact Keeps.throw h _ s
  · cases request
    · exact Keeps.of_recorded h (keeps_handleA01bc _ _) s
    · exact Keeps.call h _ _ s
    · exact fun hi => hi.login hr hst _ _
    · exact Keeps.throw h _ s
  · exact Keeps.call h _ _ s
  · exact Keeps.throw h _ s

/-- A login-protocol message of a connected player keeps the invariant when every external call
returns: each request does. -/
theorem keeps_invCarried_handleClientMessage (hr : ph r = .connected) (clientSeq : Nat)
    (requests : List Request) :
    Keeps (InvCarried cfg ph) (handleClientMessage cfg .normal r clientSeq requests) :=
  Keeps.bind isFrame_invCarried
    (Keeps.mono (fun _ _ => InvCarried.of_playersFrame)
      (objectFrame_playersFrame.updatePlayer _ _ fun _ => rfl)) fun _ =>
    Keeps.forM isFrame_invCarried fun _ => keeps_invCarried_handleRequest hr _

/-- A message that is not of a player's life leaves every player's phase as it was. -/
theorem playerPhase_nextPhase {m : Message} (hm : m.touchesPlayers = false) (phase : Peer → Phase) :
    playerPhase (m.nextPhase phase) = playerPhase phase := by
  funext q
  exact Message.nextPhase_other (fun h => by simp [h, Message.touchesPlayers] at hm)
    (fun h => by simp [h, Message.touchesPlayers] at hm)

/-- Every message in the transport's order keeps the invariant when every external call
returns. -/
theorem PlayerInv.step {w : World} {m : Message}
    (hi : PlayerInv cfg (playerPhase w.phase) w.server.roster) (hm : m.admissible w.phase = true) :
    PlayerInv cfg (playerPhase (w.next cfg .normal m).phase) (w.next cfg .normal m).server.roster := by
  simp only [World.next]
  cases hp : m.touchesPlayers
  · rw [playerPhase_nextPhase hp, keeps_roster cfg .normal m hp w.server]
    exact hi
  · cases m with
    | peerConnected p =>
      cases p <;> simp only [Message.touchesPlayers, reduceCtorEq] at hp
      exact hi.connect (by simpa [Message.admissible] using hm)
    | peerDisconnected p =>
      cases p <;> simp only [Message.touchesPlayers, reduceCtorEq] at hp
      exact hi.disconnect (by simpa [Message.admissible] using hm)
    | loginProtocol r clientSeq requests =>
      exact keeps_invCarried_handleClientMessage (by simpa [Message.admissible] using hm)
        clientSeq requests w.server hi
    | _ => simp [Message.touchesPlayers] at hp

/-- The invariant holds in every world reachable when every external call returns. -/
theorem Reachable.playerInv {w : World} (hw : Reachable cfg normalRuns w) :
    PlayerInv cfg (playerPhase w.phase) w.server.roster := by
  induction hw with
  | initial => exact playerInv_initial
  | step _ hm hout ih =>
    obtain rfl : _ = Outside.normal := hout
    exact ih.step hm

end Steps

/-! ### The registry and the sessions in every reachable world -/

/-- In every world reachable when every external call returns, every key of `players` maps to the
player with that unique id, the stored players are the connected ones, each under one key, and
`find_player_by(unique_id=k)` returns `players.get(k)`, never raising `ValueError`. -/
theorem playerRegistry_consistent (cfg : Config) (w : World) (hw : Reachable cfg normalRuns w) :
    (∀ k r, w.server.players.get? k = some r → (w.server.player r).uniqueId = some k) ∧
    (∀ r, r ∈ w.server.players.values ↔ w.phase (.player r) = .connected) ∧
    (∀ r k k', w.server.players.get? k = some r → w.server.players.get? k' = some r → k = k') ∧
    ∀ k, w.server.findPlayerBy (fun p => p.uniqueId == some k) = .ok (w.server.players.get? k) := by
  have hi := hw.playerInv
  have hkeyed : ∀ k r, w.server.players.get? k = some r → (w.server.player r).uniqueId = some k :=
    fun k r h => (hi r).keyed k h
  refine ⟨hkeyed, fun r => (hi r).held, fun r k k' h h' => ?_, fun k => ?_⟩
  · exact Option.some.inj ((hkeyed k r h).symm.trans (hkeyed k' r h'))
  · have hf : w.server.findPlayersBy (fun p => p.uniqueId == some k) =
        (w.server.players.get? k).toList :=
      Dict.filter_values_of_keyed _ k fun k' v hv => by
        simp [hkeyed k' v (Dict.get?_eq_some.2 hv)]
    simp only [LoginServer.findPlayerBy, hf]
    cases w.server.players.get? k <;> rfl

/-- In every world reachable when every external call returns, a stored player that has not
logged in has no display name, so the names that `loginRequest_postcondition` chooses its guest
name against are the other stored players' names. -/
theorem Reachable.namesInUse_of_unauthenticated {cfg : Config} {w : World}
    (hw : Reachable cfg normalRuns w) {r : Nat} (hr : r ∈ w.server.players.values)
    (hst : (w.server.player r).state = some .unauthenticated) :
    (w.server.player r).displayName = none ∧
      w.server.namesInUse = (w.server.players.values.filter (· ≠ r)).filterMap
        fun q => (w.server.player q).displayName := by
  have hi := hw.playerInv
  obtain ⟨-, -, hd⟩ := ((hi r).session ((hi r).held.1 hr)).resolve_right (by simp [hst])
  rw [LoginServer.roster_displayName] at hd
  refine ⟨hd, ?_⟩
  rw [LoginServer.namesInUse, List.filterMap_filter]
  refine List.filterMap_congr fun q _ => ?_
  by_cases hq : q = r
  · simp [hq, hd]
  · simp [hq]

/-- Three players connect; two log in as the guests `Bob` and `bob`, and the third as `alice` with
her account's password hash. -/
def sampleRun : List Message :=
  [.peerConnected (.player 0), .peerConnected (.player 1), .peerConnected (.player 2),
    .loginProtocol 0 1 [.a003a (some "Bob") (some [2])],
    .loginProtocol 1 1 [.a003a (some "bob") (some [2])],
    .loginProtocol 2 1 [.a003a (some "alice") (some [1])]]

/-- The world after `sampleRun`, every external call returning. -/
def sampleWorld : World := sampleRun.foldl (World.next sampleConfig .normal) World.initial

theorem sampleWorld_reachable : Reachable sampleConfig normalRuns sampleWorld :=
  @Reachable.foldl_next sampleConfig normalRuns _ .initial sampleRun (fun _ _ => rfl) (by decide)

/-- Alice, logged in, is found by her account's id 5. -/
theorem sampleWorld_findPlayerBy :
    sampleWorld.server.findPlayerBy (fun p => p.uniqueId == some 5) = .ok (some 2) := by
  rw [(playerRegistry_consistent sampleConfig sampleWorld sampleWorld_reachable).2.2.2 5]
  exact congrArg Except.ok (by decide)

theorem sampleConfig_accounts {n : String} {a : Account} :
    sampleConfig.accounts n = some a ↔ n = "alice" ∧ a = ⟨[1], 5⟩ := by
  by_cases hn : n = "alice" <;> simp [sampleConfig, hn, eq_comm]

/-- In every world reachable when every external call returns, a connected registered player is
under its account's id and a connected guest's id is at least 10,000,000; so, with account ids
injective and below 10,000,000, a login raises `AlreadyLoggedInError` only when another connected
player is registered under its name. -/
theorem identity_binding (cfg : Config) (w : World) (hw : Reachable cfg normalRuns w)
    (hinj : ∀ n n' a a', cfg.accounts n = some a → cfg.accounts n' = some a' →
      a.uniqueId = a'.uniqueId → n = n')
    (hlow : ∀ n a, cfg.accounts n = some a → a.uniqueId < 10000000) :
    (∀ r, w.phase (.player r) = .connected →
      ((w.server.player r).registered = true → ∃ n a, (w.server.player r).loginName = some n ∧
          cfg.accounts n = some a ∧ (w.server.player r).uniqueId = some a.uniqueId) ∧
      ((w.server.player r).registered = false →
          ∃ k, (w.server.player r).uniqueId = some k ∧ 10000000 ≤ k)) ∧
    ∀ r out name hash s', w.phase (.player r) = .connected →
      (w.server.player r).state = some .unauthenticated →
      handleLoginRequest cfg out r (some name) (some hash) w.server = .error .alreadyLoggedIn s' →
      ∃ q, q ≠ r ∧ w.phase (.player q) = .connected ∧ (w.server.player q).registered = true ∧
        (w.server.player q).loginName = some name := by
  have hi := hw.playerInv
  refine ⟨fun r hr => ⟨fun hreg => ?_, (hi r).guest hr⟩, fun r out name hash s' hr hst h => ?_⟩
  · obtain ⟨n, a, hn, ha, hu, -⟩ := (hi r).registered hr hreg
    exact ⟨n, a, hn, ha, hu⟩
  obtain ⟨-, a, ha, -, htaken⟩ := handleLoginRequest_alreadyLoggedIn h
  obtain ⟨q, hq⟩ := Dict.mem_keys_iff_get?.1 htaken
  have hquid : (w.server.player q).uniqueId = some a.uniqueId := (hi q).keyed _ hq
  have hqc : w.phase (.player q) = .connected := (hi q).held.1 (Dict.mem_values_iff_get?.2 ⟨_, hq⟩)
  have hqreg : (w.server.player q).registered = true := by
    by_contra hne
    obtain ⟨k, hk, hk10⟩ := (hi q).guest hqc (by simpa using hne)
    rw [LoginServer.roster_uniqueId, hquid, Option.some.injEq] at hk
    exact absurd (hlow name a ha) (by omega)
  obtain ⟨n, a', hn, ha', hu', -⟩ := (hi q).registered hqc hqreg
  have hnn : n = name := hinj n name a' a ha' ha (Option.some.inj (hu'.symm.trans hquid))
  refine ⟨q, fun hqr => ?_, hqc, hqreg, hnn ▸ hn⟩
  subst hqr
  obtain ⟨-, hreg, -⟩ := ((hi q).session hqc).resolve_right (by simp [hst])
  rw [LoginServer.roster_registered, hqreg] at hreg
  cases hreg

/-- Alice, logged in with her account in `sampleWorld`, is bound to it. -/
theorem sampleWorld_alice_bound :
    ∃ n a, (sampleWorld.server.player 2).loginName = some n ∧ sampleConfig.accounts n = some a ∧
      (sampleWorld.server.player 2).uniqueId = some a.uniqueId :=
  ((identity_binding sampleConfig sampleWorld sampleWorld_reachable
    (fun n n' a a' h h' _ => (sampleConfig_accounts.1 h).1.trans (sampleConfig_accounts.1 h').1.symm)
    (fun n a h => by rw [(sampleConfig_accounts.1 h).2]; decide)).1 2 (by decide)).1 (by decide)

/-- In every world reachable when every external call returns, two distinct connected players
with the same registered flag have different display names. -/
theorem displayNames_distinct_per_flag (cfg : Config) (w : World)
    (hw : Reachable cfg normalRuns w) :
    ∀ r q d, r ≠ q → w.phase (.player r) = .connected → w.phase (.player q) = .connected →
      (w.server.player r).registered = (w.server.player q).registered →
      (w.server.player r).displayName = some d → (w.server.player q).displayName ≠ some d := by
  have hi := hw.playerInv
  intro r q d hrq hr hq hflag hd hd'
  cases hreg : (w.server.player r).registered
  · rw [hreg] at hflag
    exact (hi r).guestName hr hreg d hd q (Ne.symm hrq) hq hflag.symm hd'
  · rw [hreg] at hflag
    obtain ⟨n, a, -, ha, hu, hn⟩ := (hi r).registered hr hreg
    obtain ⟨n', a', -, ha', hu', hn'⟩ := (hi q).registered hq hflag.symm
    have hnn : n = n' := Option.some.inj ((hn.symm.trans hd).trans (hd'.symm.trans hn'))
    subst hnn
    rw [ha, Option.some.injEq] at ha'
    subst ha'
    obtain ⟨k, hk, hku⟩ := hi.get?_uniqueId hr
    obtain ⟨k', hk', hku'⟩ := hi.get?_uniqueId hq
    have hkk : k = k' := Option.some.inj ((hku.symm.trans hu).trans (hu'.symm.trans hku'))
    subst hkk
    exact hrq (Option.some.inj (hk.symm.trans hk'))

/-- In `sampleWorld`, the guests `Bob` and `bob` have different display names. -/
theorem sampleWorld_guest_names_differ :
    (sampleWorld.server.player 1).displayName ≠ some "unvrf-Bob" :=
  displayNames_distinct_per_flag sampleConfig sampleWorld sampleWorld_reachable 0 1 "unvrf-Bob"
    (by decide) (by decide) (by decide) (by decide) (by decide)

/-- The guests `Bob` and `bob` get `unvrf-Bob` and `unvrf-bob`, equal ignoring case, and with
every case map that folds ASCII as `str.lower` does, `find_player_by_display_name('unvrf-bob')`
returns `Bob`. -/
theorem guest_names_equal_ignoring_case :
    Reachable sampleConfig normalRuns sampleWorld ∧
      sampleWorld.phase (.player 0) = .connected ∧ sampleWorld.phase (.player 1) = .connected ∧
      (sampleWorld.server.player 0).displayName = some "unvrf-Bob" ∧
      (sampleWorld.server.player 1).displayName = some "unvrf-bob" ∧
      ∀ lower, FoldsAscii lower → lower "unvrf-Bob" = lower "unvrf-bob" ∧
        (sampleWorld.server.findPlayerByDisplayName lower "unvrf-bob").toOption = some (some 0) := by
  refine ⟨sampleWorld_reachable, by decide, by decide, by decide, by decide, fun lower hl => ?_⟩
  have h₀ : lower "unvrf-Bob" = "unvrf-bob" := (hl _ (by decide)).trans (by decide)
  have h₁ : lower "unvrf-bob" = "unvrf-bob" := (hl _ (by decide)).trans (by decide)
  have h₂ : lower "alice" = "alice" := (hl _ (by decide)).trans (by decide)
  have hvalues : sampleWorld.server.players.values = [0, 1, 2] := by decide
  have hnames : (sampleWorld.server.player 0).displayName = some "unvrf-Bob" ∧
      (sampleWorld.server.player 1).displayName = some "unvrf-bob" ∧
      (sampleWorld.server.player 2).displayName = some "alice" := by decide
  refine ⟨h₀.trans h₁.symm, ?_⟩
  simp [LoginServer.findPlayerByDisplayName_eq, hvalues, hnames, h₀, h₁, h₂]
  rfl

end Taserver
