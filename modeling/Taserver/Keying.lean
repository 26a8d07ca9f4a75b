import Taserver.Isolation

/-! The registries stay keyed whatever the world answers. A failing external call can leave
a connected player out of the registry or a disconnected one in it, and a disconnect deletes the
entry under the player's unique id even when that entry is another player's; but every key still
maps to the player whose unique id it is. A connect stores a player, which no key held before,
under the id it has just given it; a login moves the player held under the logging-in player's id
together with that player's id; a disconnect only deletes. So the stored players are distinct, and
`find_player_by(unique_id=k)` never raises `ValueError`: it returns the player stored under `k`.
The game-server registry is keyed in the same way: a game server's connect makes no external call
before it stores the server, and its disconnect only deletes, so every key `k` maps to the server
whose server id is `k` and whose match id is `k + 10000000`, and the lookups by server id and by
match id find the server stored under the id. -/

namespace Taserver

/-- Every key of the player registry maps to the player whose unique id it is. -/
def LoginServer.Keyed (s : LoginServer) : Prop :=
  ∀ k q, s.players.get? k = some q → (s.player q).uniqueId = some k

/-- The registry stays keyed, and holds no player it did not hold. -/
def KeyedFrame (s s' : LoginServer) : Prop :=
  (s.Keyed → s'.Keyed) ∧ ∀ q ∈ s'.players.values, q ∈ s.players.values

theorem isFrame_keyedFrame : IsFrame KeyedFrame where
  refl _ := ⟨id, fun _ h => h⟩
  trans h₁ h₂ := ⟨h₂.1 ∘ h₁.1, fun q h => h₁.2 q (h₂.2 q h)⟩
  record _ _ := ⟨id, fun _ h => h⟩

/-- A step that adds no entry and changes the unique id of no player it holds. -/
theorem keyedFrame_of {s s' : LoginServer}
    (hget : ∀ k q, s'.players.get? k = some q → s.players.get? k = some q)
    (huid : ∀ k q, s'.players.get? k = some q → (s'.player q).uniqueId = (s.player q).uniqueId) :
    KeyedFrame s s' :=
  ⟨fun h k q hq => (huid k q hq).trans (h k q (hget k q hq)), fun q hq => by
    obtain ⟨k, hk⟩ := Dict.mem_values_iff_get?.1 hq
    exact Dict.mem_values_iff_get?.2 ⟨k, hget k q hk⟩⟩

/-- The re-key of a stored player moves its entry together with its unique id. -/
theorem keyedFrame_rekey {s : LoginServer} {oldKey newId : Int} {r : Nat}
    (hget : s.players.get? oldKey = some r) : KeyedFrame s (s.rekey oldKey newId r) := by
  refine ⟨fun h k q hq => ?_, fun q hq => ?_⟩
  · rw [Dict.get?_eq_some, mem_rekey_players] at hq
    rw [rekey_player]
    rcases hq with ⟨rfl, rfl⟩ | ⟨-, hold, hq⟩
    · simp
    · split_ifs with hqr
      · subst hqr
        exact absurd (Option.some_inj.1 ((h k _ (Dict.get?_eq_some.2 hq)).symm.trans
          (h oldKey _ hget))) hold
      · exact h k q (Dict.get?_eq_some.2 hq)
  · obtain ⟨k, hk⟩ := Dict.mem_values_iff_get?.1 hq
    rw [Dict.get?_eq_some, mem_rekey_players] at hk
    rcases hk with ⟨-, rfl⟩ | ⟨-, -, hk⟩
    · exact Dict.mem_values_iff_get?.2 ⟨oldKey, hget⟩
    · exact Dict.mem_values_iff_get?.2 ⟨k, Dict.get?_eq_some.2 hk⟩

/-- A player's login keeps the registry keyed, whatever the world answers. -/
theorem loginFrame_keyedFrame (r : Nat) : LoginFrame r KeyedFrame where
  toIsFrame := isFrame_keyedFrame
  updatePlayer _ _ hf := keyedFrame_of (fun _ _ h => h) fun _ q _ => by
    rw [LoginServer.updatePlayer_player]
    split_ifs with hq
    · exact hq ▸ hf
    · rfl
  rekey _ _ _ _ _ hget := keyedFrame_rekey hget

theorem delItem_eq_ok {d d' : Dict Int Nat} {key : Option Int} (h : delItem d key = .ok d') :
    ∃ k, d' = d.erase k := by
  unfold delItem at h
  split at h
  · split_ifs at h
    cases h
    exact ⟨_, rfl⟩
  · cases h

/-- A player's disconnect only deletes an entry, whatever the world answers. -/
theorem keeps_keyedFrame_disconnectPlayer (out : Outside) (r : Nat) :
    Keeps KeyedFrame (handleClientDisconnectedMessage out (.player r)) := by
  have h := isFrame_keyedFrame
  refine Keeps.bind h (Keeps.call h _ _) fun _ => Keeps.bind h (Keeps.call h _ _) fun _ =>
    Keeps.bind h (Keeps.setState h _ _ _ ((loginFrame_keyedFrame r).keeps_updatePlayer
      fun _ => rfl)) fun _ => keeps_get_bind fun s => ?_
  cases hd : delItem s.players (s.player r).uniqueId with
  | error => exact h.refl s
  | ok players =>
    obtain ⟨k, rfl⟩ := delItem_eq_ok hd
    exact keyedFrame_of (fun _ _ hq => (Dict.get?_erase.1 hq).2) fun _ _ _ => rfl

/-- A player's connect, whatever the world answers: it changes no other player, and it either
leaves the registry or stores the player under the id it gave it. -/
theorem connectPlayer_cases (out : Outside) (r : Nat) (s : LoginServer) :
    let s' := resultState (handleClientConnectedMessage out (.player r) s)
    (∀ q, q ≠ r → s'.player q = s.player q) ∧ (s'.players = s.players ∨
      (s'.players = s.players.setItem (firstUnusedNumberAbove s.players.keys 10000000) r ∧
        (s'.player r).uniqueId = some (firstUnusedNumberAbove s.players.keys 10000000))) := by
  simp only [handleClientConnectedMessage, setState, Handler.bind_apply, Handler.get_apply,
    call_apply, updatePlayer_apply, Handler.modify_apply]
  split_ifs <;> simp_all [LoginServer.player]

/-- The connect of a player that the registry does not hold keeps it keyed, whatever the world
answers, and adds at most that player. -/
theorem keyed_connectPlayer {s : LoginServer} (hk : s.Keyed) {r : Nat} (hr : r ∉ s.players.values)
    (out : Outside) :
    let s' := resultState (handleClientConnectedMessage out (.player r) s)
    s'.Keyed ∧ ∀ q ∈ s'.players.values, q ∈ s.players.values ∨ q = r := by
  obtain ⟨hobj, hpl⟩ := connectPlayer_cases out r s
  have hstored : ∀ k q, s.players.get? k = some q → q ≠ r := fun k q hq e =>
    hr (e ▸ Dict.mem_values_iff_get?.2 ⟨k, hq⟩)
  rcases hpl with hpl | ⟨hpl, huid⟩
  · refine ⟨fun k q hq => ?_, fun q hq => .inl (hpl ▸ hq)⟩
    rw [hpl] at hq
    rw [hobj q (hstored k q hq)]
    exact hk k q hq
  · refine ⟨fun k q hq => ?_, fun q hq => ?_⟩
    · rw [hpl, Dict.get?_eq_some, Dict.mem_setItem] at hq
      rcases hq with ⟨rfl, rfl⟩ | ⟨-, hq⟩
      · exact huid
      · rw [hobj q (hstored k q (Dict.get?_eq_some.2 hq))]
        exact hk k q (Dict.get?_eq_some.2 hq)
    · obtain ⟨k, hk'⟩ := Dict.mem_values_iff_get?.1 hq
      rw [hpl, Dict.get?_eq_some, Dict.mem_setItem] at hk'
      rcases hk' with ⟨-, rfl⟩ | ⟨-, hk'⟩
      · exact .inr rfl
      · exact .inl (Dict.mem_values_iff_get?.2 ⟨k, Dict.get?_eq_some.2 hk'⟩)

/-- Every message but a player's connect keeps the registry keyed, whatever the world answers. -/
theorem keeps_keyedFrame (cfg : Config) (out : Outside) {m : Message}
    (hm : ∀ r, m ≠ .peerConnected (.player r)) : Keeps KeyedFrame (handleMessage cfg out m) := by
  cases hp : m.touchesPlayers
  · exact Keeps.mono (fun _ _ h => keyedFrame_of (fun _ _ hq => h.1 ▸ hq) fun _ q _ => by
      rw [h.2 q]) (keeps_teamsOnly cfg out m hp)
  cases m with
  | peerConnected p =>
    cases p <;> simp only [Message.touchesPlayers, reduceCtorEq] at hp
    exact absurd rfl (hm _)
  | peerDisconnected p =>
    cases p <;> simp only [Message.touchesPlayers, reduceCtorEq] at hp
    exact keeps_keyedFrame_disconnectPlayer out _
  | loginProtocol => exact (loginFrame_keyedFrame _).keeps_handleClientMessage cfg out _ _
  | _ => simp [Message.touchesPlayers] at hp

/-! ### Along every run -/

/-- The registry is keyed, and holds no player that has not connected. -/
structure RegistryKeyed (w : World) : Prop where
  keyed : w.server.Keyed
  fresh : ∀ q, w.phase (.player q) = .fresh → q ∉ w.server.players.values

theorem Message.phase_fresh_of_next {m : Message} {phase : Peer → Phase} {p : Peer}
    (h : m.nextPhase phase p = .fresh) : phase p = .fresh := by
  unfold Message.nextPhase at h
  split at h <;> (try rw [Function.update_apply] at h) <;> (try split_ifs at h) <;> assumption

/-- One message in the transport's order keeps the registry keyed, whatever the world answers. -/
theorem RegistryKeyed.step {cfg : Config} {w : World} (hi : RegistryKeyed w) {m : Message}
    (hm : m.admissible w.phase = true) (out : Outside) : RegistryKeyed (w.next cfg out m) := by
  by_cases hc : ∃ r, m = .peerConnected (.player r)
  · obtain ⟨r, rfl⟩ := hc
    have hr := hi.fresh r (by simpa [Message.admissible] using hm)
    obtain ⟨hk, hsub⟩ := keyed_connectPlayer hi.keyed hr out
    refine ⟨hk, fun q hq hmem => ?_⟩
    have hqr : q ≠ r := fun e => by
      subst e
      simp [World.next, Message.nextPhase] at hq
    rcases hsub q hmem with h | h
    · exact hi.fresh q (Message.phase_fresh_of_next (m := .peerConnected (.player r)) hq) h
    · exact hqr h
  · have hF := keeps_keyedFrame cfg out (m := m) (fun r e => hc ⟨r, e⟩) w.server
    exact ⟨hF.1 hi.keyed, fun q hq hmem =>
      hi.fresh q (Message.phase_fresh_of_next hq) (hF.2 q hmem)⟩

theorem Reachable.registryKeyed {cfg : Config} {admits : Message → Outside → Prop} {w : World}
    (hw : Reachable cfg admits w) : RegistryKeyed w := by
  induction hw with
  | initial =>
    exact ⟨fun _ _ h => by simp [World.initial, LoginServer.initial, Dict.empty, Dict.get?] at h,
      fun _ _ h => by simp [World.initial, LoginServer.initial, Dict.empty, Dict.values] at h⟩
  | step _ hm _ ih => exact ih.step hm _

/-- In a keyed registry, `find_player_by(unique_id=k)` returns the player stored under `k`. -/
theorem LoginServer.Keyed.findPlayerBy_uniqueId {s : LoginServer} (h : s.Keyed) (k : Int) :
    s.findPlayerBy (fun p => p.uniqueId == some k) = .ok (s.players.get? k) := by
  have hf : s.findPlayersBy (fun p => p.uniqueId == some k) = (s.players.get? k).toList :=
    Dict.filter_values_of_keyed _ k fun k' v hv => by simp [h k' v (Dict.get?_eq_some.2 hv)]
  simp only [LoginServer.findPlayerBy, hf]
  cases s.players.get? k <;> rfl

/-- Whatever the world answers, every key of the player registry maps to the player whose unique id
it is: failures lose entries or leave stale ones, never mislabel one. So each player is stored once,
and `find_player_by(unique_id=k)` returns the player stored under `k`. -/
theorem registry_keyed_whatever_answers (cfg : Config) (admits : Message → Outside → Prop)
    (w : World) (hw : Reachable cfg admits w) :
    (∀ k q, w.server.players.get? k = some q → (w.server.player q).uniqueId = some k) ∧
      w.server.players.values.Nodup ∧
      ∀ k, w.server.findPlayerBy (fun p => p.uniqueId == some k) = .ok (w.server.players.get? k) := by
  have hk := hw.registryKeyed.keyed
  exact ⟨hk, w.server.players.nodup_values_of_keyed (fun q => (w.server.player q).uniqueId)
    (Option.some_injective _) (fun k q h => hk k q (Dict.get?_eq_some.2 h)), hk.findPlayerBy_uniqueId⟩

/-- Player 0's connect fails at `complement_address_pair` after it was given the id 10,000,000,
and player 1 then connects and is stored under the same id: the entry names player 1, whose id it
is. -/
theorem failedConnect_registry_keyed :
    let w := (World.initial.next sampleConfig complementFails (.peerConnected (.player 0))).next
      sampleConfig .normal (.peerConnected (.player 1))
    Reachable sampleConfig (fun _ _ => True) w ∧
      ((∀ k q, w.server.players.get? k = some q → (w.server.player q).uniqueId = some k) ∧
        w.server.players.values.Nodup ∧ ∀ k, w.server.findPlayerBy (fun p => p.uniqueId == some k) =
          .ok (w.server.players.get? k)) ∧
      w.server.players.get? 10000000 = some 1 ∧ (w.server.player 0).uniqueId = some 10000000 :=
  have hw : Reachable sampleConfig (fun _ _ => True)
      ((World.initial.next sampleConfig complementFails (.peerConnected (.player 0))).next
        sampleConfig .normal (.peerConnected (.player 1))) :=
    (Reachable.initial.step (m := .peerConnected (.player 0)) rfl trivial).step
      (m := .peerConnected (.player 1)) rfl trivial
  ⟨hw, registry_keyed_whatever_answers sampleConfig _ _ hw, by decide, by decide⟩

/-! ### The game-server registry -/

/-- Every key of the game-server registry is at least 1 and maps to the game server whose server
id it is and whose match id is 10,000,000 above it. -/
def Fleet.Keyed (v : Fleet) : Prop :=
  ∀ k g, v.gameServers.get? k = some g →
    v.serverId g = some k ∧ 1 ≤ k ∧ v.matchId g = some (k + 10000000)

/-- The game-server registry stays keyed, and holds no game server it did not hold. -/
def FleetKeyedFrame (s s' : LoginServer) : Prop :=
  (s.fleet.Keyed → s'.fleet.Keyed) ∧ ∀ g ∈ s'.gameServers.values, g ∈ s.gameServers.values

theorem isFrame_fleetKeyedFrame : IsFrame FleetKeyedFrame where
  refl _ := ⟨id, fun _ h => h⟩
  trans h₁ h₂ := ⟨h₂.1 ∘ h₁.1, fun g h => h₁.2 g (h₂.2 g h)⟩
  record _ _ := ⟨id, fun _ h => h⟩

/-- A game server's disconnect only deletes an entry, whatever the world answers. -/
theorem keeps_fleetKeyedFrame_disconnectGameServer (out : Outside) (r : Nat) :
    Keeps FleetKeyedFrame (handleClientDisconnectedMessage out (.gameServer r)) := by
  have h := isFrame_fleetKeyedFrame
  refine Keeps.bind h (Keeps.call h _ _) fun _ => Keeps.bind h (Keeps.call h _ _) fun _ =>
    keeps_get_bind fun s => ?_
  cases hd : delItem s.gameServers (s.gameServer r).serverId with
  | error => exact h.refl s
  | ok gameServers =>
    obtain ⟨k, rfl⟩ := delItem_eq_ok hd
    refine ⟨fun hk k' g hg => hk k' g (Dict.get?_erase.1 hg).2, fun g hg => ?_⟩
    obtain ⟨k', hk'⟩ := Dict.mem_values_iff_get?.1 hg
    exact Dict.mem_values_iff_get?.2 ⟨k', (Dict.get?_erase.1 hk').2⟩

/-- The connect of a game server that the registry does not hold keeps it keyed, whatever the
world answers, and adds at most that server. -/
theorem fleetKeyed_connectGameServer {s : LoginServer} (hk : s.fleet.Keyed) {r : Nat}
    (hr : r ∉ s.gameServers.values) (out : Outside) :
    let s' := resultState (handleClientConnectedMessage out (.gameServer r) s)
    s'.fleet.Keyed ∧ ∀ g ∈ s'.gameServers.values, g ∈ s.gameServers.values ∨ g = r := by
  obtain ⟨s', hs', hpl, hid, hmatch, hobj⟩ := connectGameServer s r out
  simp only [hs', resultState_ok]
  have hstored : ∀ k g, s.gameServers.get? k = some g → g ≠ r := fun k g hg e =>
    hr (e ▸ Dict.mem_values_iff_get?.2 ⟨k, hg⟩)
  refine ⟨fun k g hg => ?_, fun g hg => ?_⟩
  · simp only [LoginServer.fleet_gameServers, LoginServer.fleet_serverId,
      LoginServer.fleet_matchId] at hg ⊢
    rw [hpl, Dict.get?_eq_some, Dict.mem_setItem] at hg
    rcases hg with ⟨rfl, rfl⟩ | ⟨-, hg⟩
    · exact ⟨hid, le_firstUnusedNumberAbove _ 1, hmatch⟩
    · rw [hobj g (hstored k g (Dict.get?_eq_some.2 hg))]
      exact hk k g (Dict.get?_eq_some.2 hg)
  · obtain ⟨k, hk'⟩ := Dict.mem_values_iff_get?.1 hg
    rw [hpl, Dict.get?_eq_some, Dict.mem_setItem] at hk'
    rcases hk' with ⟨-, rfl⟩ | ⟨-, hk'⟩
    · exact .inr rfl
    · exact .inl (Dict.mem_values_iff_get?.2 ⟨k, Dict.get?_eq_some.2 hk'⟩)

/-- Every message but a game server's connect keeps the game-server registry keyed, whatever the
world answers. -/
theorem keeps_fleetKeyedFrame (cfg : Config) (out : Outside) {m : Message}
    (hm : ∀ r, m ≠ .peerConnected (.gameServer r)) :
    Keeps FleetKeyedFrame (handleMessage cfg out m) := by
  cases hp : m.touchesServers
  · refine Keeps.mono (fun s s' h => ⟨fun hk => h ▸ hk, fun g hg => ?_⟩) (keeps_fleet cfg out m hp)
    have hs : s'.gameServers = s.gameServers := congrArg Fleet.gameServers h
    rwa [hs] at hg
  cases m with
  | peerConnected p =>
    cases p <;> simp only [Message.touchesServers, reduceCtorEq] at hp
    exact absurd rfl (hm _)
  | peerDisconnected p =>
    cases p <;> simp only [Message.touchesServers, reduceCtorEq] at hp
    exact keeps_fleetKeyedFrame_disconnectGameServer out _
  | _ => simp [Message.touchesServers] at hp

/-- The game-server registry is keyed, and holds no game server that has not connected. -/
structure FleetKeyed (w : World) : Prop where
  keyed : w.server.fleet.Keyed
  fresh : ∀ g, w.phase (.gameServer g) = .fresh → g ∉ w.server.gameServers.values

/-- One message in the transport's order keeps the game-server registry keyed, whatever the world
answers. -/
theorem FleetKeyed.step {cfg : Config} {w : World} (hi : FleetKeyed w) {m : Message}
    (hm : m.admissible w.phase = true) (out : Outside) : FleetKeyed (w.next cfg out m) := by
  by_cases hc : ∃ r, m = .peerConnected (.gameServer r)
  · obtain ⟨r, rfl⟩ := hc
    have hr := hi.fresh r (by simpa [Message.admissible] using hm)
    obtain ⟨hk, hsub⟩ := fleetKeyed_connectGameServer hi.keyed hr out
    refine ⟨hk, fun g hg hmem => ?_⟩
    have hgr : g ≠ r := fun e => by
      subst e
      simp [World.next, Message.nextPhase] at hg
    rcases hsub g hmem with h | h
    · exact hi.fresh g (Message.phase_fresh_of_next (m := .peerConnected (.gameServer r)) hg) h
    · exact hgr h
  · have hF := keeps_fleetKeyedFrame cfg out (m := m) (fun r e => hc ⟨r, e⟩) w.server
    exact ⟨hF.1 hi.keyed, fun g hg hmem =>
      hi.fresh g (Message.phase_fresh_of_next hg) (hF.2 g hmem)⟩

theorem Reachable.fleetKeyed {cfg : Config} {admits : Message → Outside → Prop} {w : World}
    (hw : Reachable cfg admits w) : FleetKeyed w := by
  induction hw with
  | initial =>
    exact ⟨fun _ _ h => by simp [World.initial, LoginServer.initial, Dict.empty, Dict.get?] at h,
      fun _ _ h => by simp [World.initial, LoginServer.initial, Dict.empty, Dict.values] at h⟩
  | step _ hm _ ih => exact ih.step hm _

section Lookups

variable {s : LoginServer} (h : s.fleet.Keyed)
include h

/-- A keyed game-server registry, read through the game servers. -/
theorem Fleet.Keyed.get? {k : Int} {g : Nat} (hg : s.gameServers.get? k = some g) :
    (s.gameServer g).serverId = some k ∧ 1 ≤ k ∧ (s.gameServer g).matchId = some (k + 10000000) :=
  h k g hg

/-- In a keyed game-server registry, `find_server_by_id(i)` finds the server stored under `i`. -/
theorem Fleet.Keyed.findServerById (i : Int) :
    s.findServerById i = match s.gameServers.get? i with
      | some g => .ok g
      | none => .error (.protocolViolation "No server found with specified server ID") := by
  have hf : s.gameServers.values.find? (fun r => (s.gameServer r).serverId == some i) =
      s.gameServers.get? i := Dict.find?_values_of_keyed _ i fun k' v hv => by
    simp [(h.get? (Dict.get?_eq_some.2 hv)).1]
  rcases hg : s.gameServers.get? i <;> simp only [LoginServer.findServerById, hf, hg]

/-- In a keyed game-server registry, `find_server_by_match_id(m)` finds the server stored under
`m - 10000000`. -/
theorem Fleet.Keyed.findServerByMatchId (m : Int) :
    s.findServerByMatchId m = match s.gameServers.get? (m - 10000000) with
      | some g => .ok g
      | none => .error (.protocolViolation "No server found with specified match ID") := by
  have hf : s.gameServers.values.find? (fun r => (s.gameServer r).matchId == some m) =
      s.gameServers.get? (m - 10000000) := Dict.find?_values_of_keyed _ _ fun k' v hv => by
    simp only [(h.get? (Dict.get?_eq_some.2 hv)).2.2, beq_iff_eq, Option.some.injEq]
    omega
  rcases hg : s.gameServers.get? (m - 10000000) <;>
    simp only [LoginServer.findServerByMatchId, hf, hg]

end Lookups

/-- Whatever the world answers, every key `k ≥ 1` of the game-server registry maps to the server
whose server id is `k` and whose match id is `k + 10000000`, stale entries included; so both
lookups find the server stored under the id. -/
theorem serverRegistry_keyed_whatever_answers (cfg : Config) (admits : Message → Outside → Prop)
    (w : World) (hw : Reachable cfg admits w) :
    (∀ k g, w.server.gameServers.get? k = some g → (w.server.gameServer g).serverId = some k ∧
      1 ≤ k ∧ (w.server.gameServer g).matchId = some (k + 10000000)) ∧
    (∀ i, w.server.findServerById i = match w.server.gameServers.get? i with
      | some g => .ok g
      | none => .error (.protocolViolation "No server found with specified server ID")) ∧
    ∀ m, w.server.findServerByMatchId m = match w.server.gameServers.get? (m - 10000000) with
      | some g => .ok g
      | none => .error (.protocolViolation "No server found with specified match ID") :=
  have hk := hw.fleetKeyed.keyed
  ⟨hk, hk.findServerById, hk.findServerByMatchId⟩

/-- The world that answers a disconnect of game server 0 by raising. -/
def disconnectFails : Outside := ⟨fun c => decide (c = .disconnect (.gameServer 0)), []⟩

/-- Game server 0 connects and its disconnect fails, leaving its entry under id 1; game server 1
then connects under id 2, and the lookups still find each under its own ids. -/
theorem failedDisconnect_fleet_keyed :
    let w := ((World.initial.next sampleConfig .normal (.peerConnected (.gameServer 0))).next
      sampleConfig disconnectFails (.peerDisconnected (.gameServer 0))).next sampleConfig .normal
        (.peerConnected (.gameServer 1))
    Reachable sampleConfig (fun _ _ => True) w ∧
      ((∀ k g, w.server.gameServers.get? k = some g → (w.server.gameServer g).serverId = some k ∧
        1 ≤ k ∧ (w.server.gameServer g).matchId = some (k + 10000000)) ∧
      (∀ i, w.server.findServerById i = match w.server.gameServers.get? i with
        | some g => .ok g
        | none => .error (.protocolViolation "No server found with specified server ID")) ∧
      ∀ m, w.server.findServerByMatchId m = match w.server.gameServers.get? (m - 10000000) with
        | some g => .ok g
        | none => .error (.protocolViolation "No server found with specified match ID")) ∧
      w.server.gameServers.get? 1 = some 0 ∧ w.server.gameServers.get? 2 = some 1 :=
  have hw : Reachable sampleConfig (fun _ _ => True)
      (((World.initial.next sampleConfig .normal (.peerConnected (.gameServer 0))).next
        sampleConfig disconnectFails (.peerDisconnected (.gameServer 0))).next sampleConfig .normal
          (.peerConnected (.gameServer 1))) :=
    ((Reachable.initial.step (m := .peerConnected (.gameServer 0)) rfl trivial).step
      (m := .peerDisconnected (.gameServer 0)) rfl trivial).step
        (m := .peerConnected (.gameServer 1)) rfl trivial
  ⟨hw, serverRegistry_keyed_whatever_answers sampleConfig _ _ hw, by decide, by decide⟩

end Taserver
