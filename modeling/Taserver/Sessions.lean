import Taserver.PlayerInvariant

/-! What each message does to the players, in every state and whatever the world outside does. A
message that is not of a player's life (its connect, its disconnect, its login-protocol data)
changes neither the player registry nor any field of a player but its team. A player's state moves
only along its session: to unauthenticated at its connect, from unauthenticated to authenticated
in a login, and to offline at its disconnect; every other message, and every message of another
player, leaves it as it was. Along every run in the transport's order, whatever the world answers,
a player has no state before its connect and is offline only after its disconnect. -/

namespace Taserver

/-! ### Messages that are not of a player's life -/

/-- The player registry is unchanged, and every player record but its team. -/
def TeamsOnly (s s' : LoginServer) : Prop :=
  s'.players = s.players ∧ ∀ q, s'.player q = { s.player q with team := (s'.player q).team }

theorem launcherFrame_teamsOnly : LauncherFrame TeamsOnly where
  refl _ := ⟨rfl, fun _ => rfl⟩
  trans h₁ h₂ := ⟨h₂.1.trans h₁.1, fun q => (h₂.2 q).trans (by rw [h₁.2 q])⟩
  record _ _ := ⟨rfl, fun _ => rfl⟩
  setTeam r _ s := ⟨rfl, fun q => by by_cases hq : q = r <;> simp [hq]⟩
  updateGameServer _ _ _ _ := ⟨rfl, fun _ => rfl⟩

/-- Every message that is not of a player's life keeps the registry and every player record but
its team, whatever the world does. -/
theorem keeps_teamsOnly (cfg : Config) (out : Outside) (m : Message)
    (hm : m.touchesPlayers = false) : Keeps TeamsOnly (handleMessage cfg out m) := by
  have h := launcherFrame_teamsOnly.toIsFrame
  cases m with
  | authCodeRequest p name =>
    exact Keeps.of_recorded h (keeps_handleAuthcodeRequestMessage cfg out p name)
  | executeCallback => exact Keeps.call h _ _
  | httpRequest p path => exact Keeps.of_recorded h (keeps_handleHttpRequestMessage out p path)
  | peerConnected p =>
    cases p
    · simp [Message.touchesPlayers] at hm
    · exact keeps_get_bind fun _ => ⟨rfl, fun _ => rfl⟩
    · exact Keeps.pure h _
    · exact Keeps.throw h _
  | peerDisconnected p =>
    cases p
    · simp [Message.touchesPlayers] at hm
    · refine Keeps.bind h (Keeps.call h _ _) fun _ => Keeps.bind h (Keeps.call h _ _) fun _ =>
        keeps_get_bind fun s => ?_
      cases delItem s.gameServers (s.gameServer _).serverId <;> exact ⟨rfl, fun _ => rfl⟩
    · exact Keeps.call h _ _
    · exact Keeps.throw h _
  | loginProtocol => simp [Message.touchesPlayers] at hm
  | _ => exact keeps_launcher launcherFrame_teamsOnly out _ cfg rfl

/-! ### A player's session -/

/-- Every player's state is as it was, but that of player `r`, which may take a step of `step`. -/
def StatesMoveOnly (r : Nat) (step : Option PlayerState → Option PlayerState → Prop)
    (s s' : LoginServer) : Prop :=
  ∀ q, (s'.player q).state = (s.player q).state ∨
    (q = r ∧ step (s.player q).state (s'.player q).state)

section StatesMoveOnly

variable {r : Nat} {step : Option PlayerState → Option PlayerState → Prop}

theorem isFrame_statesMoveOnly (htrans : ∀ a b c, step a b → step b c → step a c) :
    IsFrame (StatesMoveOnly r step) where
  refl _ _ := .inl rfl
  trans h₁ h₂ q := by
    rcases h₁ q with h | ⟨hq, h⟩ <;> rcases h₂ q with h' | ⟨hq', h'⟩
    · exact .inl (h'.trans h)
    · exact .inr ⟨hq', h ▸ h'⟩
    · exact .inr ⟨hq, h' ▸ h⟩
    · exact .inr ⟨hq, htrans _ _ _ h h'⟩
  record _ _ _ := .inl rfl

theorem StatesMoveOnly.of_states {s s' : LoginServer}
    (h : ∀ q, (s'.player q).state = (s.player q).state) : StatesMoveOnly r step s s' :=
  fun q => .inl (h q)

/-- A change of any player that keeps its state. -/
theorem keeps_statesMoveOnly_updatePlayer (x : Nat) {f : Player → Player}
    (hf : ∀ p, (f p).state = p.state) : Keeps (StatesMoveOnly r step) (updatePlayer x f) :=
  fun _ => .of_states fun q => by by_cases hq : q = x <;> simp [hq, hf]

/-- The change of player `r`'s state to one that every state may step to. -/
theorem keeps_statesMoveOnly_setState (st : PlayerState) (hst : ∀ a, step a (some st)) :
    Keeps (StatesMoveOnly r step) (updatePlayer r fun p => { p with state := some st }) :=
  fun s q => by
    by_cases hq : q = r
    · exact .inr ⟨hq, by simpa [hq] using hst _⟩
    · exact .inl (by simp [hq])

end StatesMoveOnly

section Handlers

variable (cfg : Config) (out : Outside) (r : Nat)

/-- A player's connect moves its state to unauthenticated, or leaves it, when an external call
raises first; no other player's state changes. -/
theorem keeps_statesMoveOnly_connectPlayer :
    Keeps (StatesMoveOnly r fun _ b => b = some .unauthenticated)
      (handleClientConnectedMessage out (.player r)) :=
  keeps_connectPlayer (isFrame_statesMoveOnly fun _ _ _ _ h => h) out r
    (fun _ => keeps_statesMoveOnly_updatePlayer _ fun _ => rfl)
    (keeps_statesMoveOnly_setState _ fun _ => rfl) fun _ _ => .of_states fun _ => rfl

/-- A player's disconnect moves its state to offline, or leaves it; no other player's state
changes. -/
theorem keeps_statesMoveOnly_disconnectPlayer :
    Keeps (StatesMoveOnly r fun _ b => b = some .offline)
      (handleClientDisconnectedMessage out (.player r)) :=
  keeps_disconnectPlayer (isFrame_statesMoveOnly fun _ _ _ _ h => h) out r
    (keeps_statesMoveOnly_setState _ fun _ => rfl) fun _ _ => .of_states fun _ => rfl

/-- A login moves the player's state to authenticated, or leaves it; the re-key of the account
check changes no state. -/
theorem keeps_statesMoveOnly_handleLoginRequest (loginName : Option String)
    (passwordHash : Option (List UInt8)) :
    Keeps (StatesMoveOnly r fun _ b => b = some .authenticated)
      (handleLoginRequest cfg out r loginName passwordHash) := by
  have h := @isFrame_statesMoveOnly r (fun _ b => b = some .authenticated) fun _ _ _ _ h => h
  unfold handleLoginRequest
  split
  · exact Keeps.call h _ _
  · split
    · refine Keeps.bind h (keeps_statesMoveOnly_updatePlayer _ fun _ => rfl) fun _ =>
        Keeps.bind h (keeps_statesMoveOnly_updatePlayer _ fun _ => rfl) fun _ => ?_
      split
      · exact Keeps.of_recorded h (keeps_rejectLogin _ _ _)
      · refine Keeps.bind h (fun s => ?_) fun _ s => ?_
        · rcases checkAccount_cases (rfl : checkAccount cfg r _ _ s = _) with
            h' | ⟨_, h', -⟩ | ⟨_, _, r', -, -, -, -, -, h'⟩ <;> rw [h']
          · exact .of_states fun _ => rfl
          · exact .of_states fun _ => rfl
          · exact .of_states fun q => by
              simp only [resultState_ok, LoginServer.updatePlayer_player, rekey_player]
              split_ifs <;> subst_vars <;> rfl
        · rcases acceptLogin_cases (rfl : acceptLogin cfg out r _ s = _) with
            ⟨-, h'⟩ | ⟨_, -, ⟨_, _, -, h'⟩ | h'⟩ <;> rw [h']
          · exact .of_states fun _ => rfl
          · exact .of_states fun q => by by_cases hq : q = r <;> simp [hq]
          · intro q
            by_cases hq : q = r
            · exact .inr ⟨hq, by simp [hq]⟩
            · exact .inl (by simp [hq])
    · exact Keeps.throw h _

/-- The step of a login: from unauthenticated to authenticated. -/
def LoginStep (a b : Option PlayerState) : Prop :=
  a = some .unauthenticated ∧ b = some .authenticated

theorem loginStep_trans (a b c : Option PlayerState) (h : LoginStep a b) (h' : LoginStep b c) :
    LoginStep a c :=
  absurd (h.2.symm.trans h'.1) (by simp)

/-- A request moves the player's state only from unauthenticated to authenticated. -/
theorem keeps_statesMoveOnly_handleRequest (request : Request) :
    Keeps (StatesMoveOnly r LoginStep) (handleRequest cfg out r request) := by
  have h := @isFrame_statesMoveOnly r _ loginStep_trans
  refine keeps_get_bind fun s => ?_
  rcases hst : (s.player r).state with _ | _ | _ | _
  · exact Keeps.throw h _ s
  · cases request
    · exact Keeps.of_recorded h (keeps_handleA01bc _ _) s
    · exact Keeps.call h _ _ s
    · intro q
      rcases keeps_statesMoveOnly_handleLoginRequest cfg out r _ _ s q with h' | ⟨hq, h'⟩
      · exact .inl h'
      · exact .inr ⟨hq, hq ▸ hst, h'⟩
    · exact Keeps.throw h _ s
  · exact Keeps.call h _ _ s
  · exact Keeps.throw h _ s

/-- A login-protocol message of a player moves its state only from unauthenticated to
authenticated, and no other player's state. -/
theorem keeps_statesMoveOnly_handleClientMessage (clientSeq : Nat) (requests : List Request) :
    Keeps (StatesMoveOnly r LoginStep) (handleClientMessage cfg out r clientSeq requests) :=
  have h := @isFrame_statesMoveOnly r _ loginStep_trans
  Keeps.bind h (keeps_statesMoveOnly_updatePlayer _ fun _ => rfl) fun _ =>
    Keeps.forM h fun _ => keeps_statesMoveOnly_handleRequest _ _ _ _

end Handlers

/-- What one message does to the state of player `q`, whatever the world answers: nothing, or the
step of the player's own session that the message is. -/
theorem handleMessage_state_cases (cfg : Config) (out : Outside) (m : Message) (s : LoginServer)
    (q : Nat) :
    let s' := resultState (handleMessage cfg out m s)
    (s'.player q).state = (s.player q).state ∨
      (m = .peerConnected (.player q) ∧ (s'.player q).state = some .unauthenticated) ∨
      (m = .peerDisconnected (.player q) ∧ (s'.player q).state = some .offline) ∨
      ((∃ clientSeq requests, m = .loginProtocol q clientSeq requests) ∧
        (s.player q).state = some .unauthenticated ∧ (s'.player q).state = some .authenticated) := by
  intro s'
  cases hm : m.touchesPlayers
  · exact .inl (by rw [(keeps_teamsOnly cfg out m hm s).2 q])
  cases m with
  | peerConnected p =>
    cases p <;> simp only [Message.touchesPlayers, reduceCtorEq] at hm
    rename_i r
    rcases keeps_statesMoveOnly_connectPlayer out r s q with h | ⟨rfl, h⟩
    · exact .inl h
    · exact .inr (.inl ⟨rfl, h⟩)
  | peerDisconnected p =>
    cases p <;> simp only [Message.touchesPlayers, reduceCtorEq] at hm
    rename_i r
    rcases keeps_statesMoveOnly_disconnectPlayer out r s q with h | ⟨rfl, h⟩
    · exact .inl h
    · exact .inr (.inr (.inl ⟨rfl, h⟩))
  | loginProtocol r clientSeq requests =>
    rcases keeps_statesMoveOnly_handleClientMessage cfg out r clientSeq requests s q with
      h | ⟨rfl, h⟩
    · exact .inl h
    · exact .inr (.inr (.inr ⟨⟨clientSeq, requests, rfl⟩, h⟩))
  | _ => simp [Message.touchesPlayers] at hm

/-! ### A player's state along a run -/

/-- A player's state against its phase in the transport: no state before its connect, and offline
only after its disconnect. -/
structure SessionAt (ph : Nat → Phase) (s : LoginServer) (r : Nat) : Prop where
  fresh : ph r = .fresh → (s.player r).state = none
  offline : (s.player r).state = some .offline → ph r = .gone

section SessionAt

variable {cfg : Config} {w : World} {m : Message} {out : Outside} {r : Nat}

theorem playerPhase_connectedSelf (phase : Peer → Phase) :
    playerPhase ((Message.peerConnected (.player r)).nextPhase phase) r = .connected := by
  simp [playerPhase, Message.nextPhase]

theorem playerPhase_disconnectedSelf (phase : Peer → Phase) :
    playerPhase ((Message.peerDisconnected (.player r)).nextPhase phase) r = .gone := by
  simp [playerPhase, Message.nextPhase]

/-- Every message in the transport's order keeps a player's session against its phase, whatever
the world answers. -/
theorem SessionAt.step (hi : SessionAt (playerPhase w.phase) w.server r)
    (hm : m.admissible w.phase = true) :
    SessionAt (playerPhase (w.next cfg out m).phase) (w.next cfg out m).server r := by
  rcases handleMessage_state_cases cfg out m w.server r with
    h | ⟨rfl, h⟩ | ⟨rfl, h⟩ | ⟨⟨_, _, rfl⟩, hu, h⟩
  · by_cases hc : m = .peerConnected (.player r)
    · subst hc
      have hf : playerPhase w.phase r = .fresh := by simpa [Message.admissible] using hm
      exact ⟨fun h' => by simp [World.next, playerPhase_connectedSelf] at h',
        fun h' => absurd ((h.trans (hi.fresh hf)).symm.trans h') (by simp)⟩
    by_cases hd : m = .peerDisconnected (.player r)
    · subst hd
      exact ⟨fun h' => by simp [World.next, playerPhase_disconnectedSelf] at h',
        fun _ => playerPhase_disconnectedSelf _⟩
    · have hph : playerPhase (w.next cfg out m).phase r = playerPhase w.phase r :=
        Message.nextPhase_other hc hd
      exact ⟨fun h' => h.trans (hi.fresh (hph ▸ h')), fun h' => hph ▸ hi.offline (h.symm.trans h')⟩
  · exact ⟨fun h' => by simp [World.next, playerPhase_connectedSelf] at h',
      fun h' => absurd (h.symm.trans h') (by simp)⟩
  · exact ⟨fun h' => by simp [World.next, playerPhase_disconnectedSelf] at h',
      fun _ => playerPhase_disconnectedSelf _⟩
  · exact ⟨fun h' => by simp [hi.fresh h'] at hu, fun h' => absurd (h.symm.trans h') (by simp)⟩

/-- Every reachable world, whatever the world answers, keeps every player's session against its
phase. -/
theorem Reachable.sessionAt {admits : Message → Outside → Prop} (hw : Reachable cfg admits w)
    (r : Nat) : SessionAt (playerPhase w.phase) w.server r := by
  induction hw with
  | initial => exact ⟨fun _ => rfl, fun h => by cases h⟩
  | step _ hm _ ih => exact ih.step hm

end SessionAt

/-- In every world that messages in the transport's order reach, whatever the world answers at each
step: a player that has not connected has no state, an offline player has disconnected, and a
connected player is never offline (it has no state when its connect raised before `set_state`). -/
theorem player_state_follows_transport (cfg : Config) (admits : Message → Outside → Prop)
    (w : World) (hw : Reachable cfg admits w) (r : Nat) :
    (w.phase (.player r) = .fresh → (w.server.player r).state = none) ∧
    ((w.server.player r).state = some .offline → w.phase (.player r) = .gone) ∧
    (w.phase (.player r) = .connected → (w.server.player r).state ≠ some .offline) :=
  have h := hw.sessionAt r
  ⟨h.fresh, h.offline, fun hc ho => by simpa [playerPhase, hc] using h.offline ho⟩

/-- Player 0's connect, in the world where `complement_address_pair` raises: it is connected, and
its state is still `None`. -/
theorem failed_connect_state :
    let w := World.initial.next sampleConfig complementFails (.peerConnected (.player 0))
    ((w.phase (.player 0) = .fresh → (w.server.player 0).state = none) ∧
      ((w.server.player 0).state = some .offline → w.phase (.player 0) = .gone) ∧
      (w.phase (.player 0) = .connected → (w.server.player 0).state ≠ some .offline)) ∧
    w.phase (.player 0) = .connected ∧ (w.server.player 0).state = none :=
  ⟨player_state_follows_transport sampleConfig (fun _ _ => True) _
    (Reachable.initial.step (m := .peerConnected (.player 0)) rfl trivial) 0, rfl, rfl⟩

end Taserver
