import Taserver.PlayerInvariant

/-! The invariant of the game-server registry: every key `k` maps to a connected server whose
server id is `k`, at least 1, and whose match id is `k + 10,000,000`, and the stored servers are
the connected ones. It holds over the runs in which the external calls of a game server's
disconnect return, whatever any other external call does: no other message changes the registry
or an id (`keeps_fleet`). From it, the linear searches `find_server_by_id` and
`find_server_by_match_id` agree with the lookup of a key. -/

namespace Taserver

/-- The transport's phase of game server `g`. -/
def serverPhase (phase : Peer → Phase) (g : Nat) : Phase := phase (.gameServer g)

/-- The runs in which the external calls of the game servers' connects and disconnects return;
every other external call may raise. -/
def serverRuns (m : Message) (out : Outside) : Prop := m.touchesServers = true → out = .normal

/-- What the invariant says of game server `g`, over the servers' phases and the fleet. -/
structure ServerInvAt (ph : Nat → Phase) (v : Fleet) (g : Nat) : Prop where
  /-- A key that maps to `g` is its server id, at least 1, and 10,000,000 below its match id. -/
  keyed : ∀ k, v.gameServers.get? k = some g →
    v.serverId g = some k ∧ 1 ≤ k ∧ v.matchId g = some (k + 10000000)
  /-- `g` is stored exactly while it is connected. -/
  held : g ∈ v.gameServers.values ↔ ph g = .connected

/-- The invariant of the game-server registry: what it says of every game server. -/
def ServerInv (ph : Nat → Phase) (v : Fleet) : Prop := ∀ g, ServerInvAt ph v g

section Steps

variable {phase : Peer → Phase} {s : LoginServer} {g : Nat}

theorem serverInv_initial : ServerInv (serverPhase World.initial.phase) LoginServer.initial.fleet :=
  fun _ => ⟨fun _ hk => by simp [LoginServer.initial] at hk,
    by simp [LoginServer.initial, Dict.values, serverPhase, World.initial]⟩

theorem serverPhase_connected :
    serverPhase ((Message.peerConnected (.gameServer g)).nextPhase phase) =
      Function.update (serverPhase phase) g .connected := by
  funext q
  by_cases hq : q = g <;> simp [serverPhase, Message.nextPhase, Function.update_apply, hq]

theorem serverPhase_disconnected :
    serverPhase ((Message.peerDisconnected (.gameServer g)).nextPhase phase) =
      Function.update (serverPhase phase) g .gone := by
  funext q
  by_cases hq : q = g <;> simp [serverPhase, Message.nextPhase, Function.update_apply, hq]

/-- A message that is not a game server's connect or disconnect leaves every server's phase as
it was. -/
theorem serverPhase_nextPhase {m : Message} (hm : m.touchesServers = false) (phase : Peer → Phase) :
    serverPhase (m.nextPhase phase) = serverPhase phase := by
  funext q
  exact Message.nextPhase_other (fun h => by simp [h, Message.touchesServers] at hm)
    (fun h => by simp [h, Message.touchesServers] at hm)

/-- A game server's connect keeps the invariant, whatever the world does: its new id is free and
at least 1. -/
theorem ServerInv.connect (hi : ServerInv (serverPhase phase) s.fleet)
    (hg : phase (.gameServer g) = .fresh) (out : Outside) :
    ServerInv (serverPhase ((Message.peerConnected (.gameServer g)).nextPhase phase))
      (resultState (handleClientConnectedMessage out (.gameServer g) s)).fleet := by
  obtain ⟨s', hs', hservers, hid, hmatch, hothers⟩ := connectGameServer s g out
  rw [hs', resultState_ok, serverPhase_connected]
  set u := firstUnusedNumberAbove s.gameServers.keys 1
  have hu : u ∉ s.gameServers.keys := firstUnusedNumberAbove_not_mem _ _
  have hnot : g ∉ s.gameServers.values := fun h => by
    simpa [serverPhase, hg] using (hi g).held.1 h
  intro q
  by_cases hq : q = g
  · subst hq
    refine ⟨fun k hk => ?_, ?_⟩
    · rw [LoginServer.fleet_gameServers, hservers, Dict.get?_eq_some, Dict.mem_setItem] at hk
      rcases hk with ⟨rfl, -⟩ | ⟨-, hk⟩
      · exact ⟨by simp [hid], le_firstUnusedNumberAbove _ _, by simp [hmatch]⟩
      · exact absurd (Dict.mem_values_of_mem hk) hnot
    · simpa [hservers] using Dict.mem_values_setItem_self
  · have hentries : ∀ k, s'.gameServers.get? k = some q ↔ s.gameServers.get? k = some q :=
      fun _ => hservers ▸ Dict.get?_setItem_of_not_mem hu hq
    obtain ⟨keyed, held⟩ := hi q
    refine ⟨fun k hk => ?_, ?_⟩
    · simpa [hothers q hq] using keyed k ((hentries k).1 hk)
    · rw [Function.update_noteq hq, ← held, LoginServer.fleet_gameServers,
        LoginServer.fleet_gameServers, Dict.mem_values_iff_get?, Dict.mem_values_iff_get?]
      exact exists_congr hentries

/-- A game server's disconnect keeps the invariant when its external calls return: it deletes the
entry of the server's own id. -/
theorem ServerInv.disconnect (hi : ServerInv (serverPhase phase) s.fleet)
    (hg : phase (.gameServer g) = .connected) :
    ServerInv (serverPhase ((Message.peerDisconnected (.gameServer g)).nextPhase phase))
      (resultState (handleClientDisconnectedMessage .normal (.gameServer g) s)).fleet := by
  obtain ⟨k, hk⟩ := Dict.mem_values_iff_get?.1 ((hi g).held.2 hg)
  obtain ⟨hid, -, -⟩ := (hi g).keyed k hk
  obtain ⟨s', hs', hservers, hsame⟩ :=
    disconnectGameServer_normal s g hid (Dict.mem_keys_of_mem (Dict.get?_eq_some.1 hk))
  rw [hs', resultState_ok, serverPhase_disconnected]
  have hentries : ∀ k' q, s'.gameServers.get? k' = some q ↔
      k' ≠ k ∧ s.gameServers.get? k' = some q := fun _ _ => hservers ▸ Dict.get?_erase
  intro q
  obtain ⟨keyed, held⟩ := hi q
  refine ⟨fun k' hk' => by simpa [hsame] using keyed k' ((hentries k' q).1 hk').2, ?_⟩
  simp only [LoginServer.fleet_gameServers, Dict.mem_values_iff_get?, hentries]
  by_cases hq : q = g
  · subst hq
    simp only [Function.update_same, reduceCtorEq, iff_false, not_exists, not_and]
    intro k' hk' hget
    exact hk' (Option.some.inj (((keyed k' hget).1.symm).trans hid))
  · rw [Function.update_noteq hq, ← held, LoginServer.fleet_gameServers, Dict.mem_values_iff_get?]
    refine exists_congr fun k' => ⟨fun h => h.2, fun h => ⟨fun hkk => hq ?_, h⟩⟩
    subst hkk
    exact Option.some.inj (h.symm.trans hk)

/-- Every message in the transport's order keeps the invariant when the external calls of the game
servers' connects and disconnects return. -/
theorem ServerInv.step {cfg : Config} {w : World} {m : Message} {out : Outside}
    (hi : ServerInv (serverPhase w.phase) w.server.fleet) (hm : m.admissible w.phase = true)
    (hout : serverRuns m out) :
    ServerInv (serverPhase (w.next cfg out m).phase) (w.next cfg out m).server.fleet := by
  simp only [World.next]
  cases hs : m.touchesServers
  · rw [serverPhase_nextPhase hs, keeps_fleet cfg out m hs w.server]
    exact hi
  · obtain rfl := hout hs
    cases m with
    | peerConnected p =>
      cases p <;> simp only [Message.touchesServers, reduceCtorEq] at hs
      exact hi.connect (by simpa [Message.admissible] using hm) .normal
    | peerDisconnected p =>
      cases p <;> simp only [Message.touchesServers, reduceCtorEq] at hs
      exact hi.disconnect (by simpa [Message.admissible] using hm)
    | _ => simp [Message.touchesServers] at hs

/-- The invariant holds in every world reachable when the external calls of the game servers'
connects and disconnects return. -/
theorem Reachable.serverInv {cfg : Config} {w : World} (hw : Reachable cfg serverRuns w) :
    ServerInv (serverPhase w.phase) w.server.fleet := by
  induction hw with
  | initial => exact serverInv_initial
  | step _ hm hout ih => exact ih.step hm hout

end Steps

/-! ### The registry in every reachable world -/

/-- When game servers' disconnects make their calls return, every key `k ≥ 1` of `game_servers`
maps to the server with server id `k` and match id `k + 10,000,000`, the stored servers are the
connected ones, with distinct match ids, and both lookups find the server under the id. -/
theorem gameServerRegistry_consistent (cfg : Config) (w : World)
    (hw : Reachable cfg serverRuns w) :
    (∀ k g, w.server.gameServers.get? k = some g → (w.server.gameServer g).serverId = some k ∧
      1 ≤ k ∧ (w.server.gameServer g).matchId = some (k + 10000000)) ∧
    (∀ g, g ∈ w.server.gameServers.values ↔ w.phase (.gameServer g) = .connected) ∧
    (∀ g g', g ∈ w.server.gameServers.values → g' ∈ w.server.gameServers.values → g ≠ g' →
      (w.server.gameServer g).matchId ≠ (w.server.gameServer g').matchId) ∧
    (∀ g g' i, g ∈ w.server.gameServers.values → g' ∈ w.server.gameServers.values →
      (w.server.gameServer g').serverId = some i → i < 10000000 →
      (w.server.gameServer g).matchId ≠ some i) ∧
    (∀ i, w.server.findServerById i = match w.server.gameServers.get? i with
      | some g => .ok g
      | none => .error (.protocolViolation "No server found with specified server ID")) ∧
    ∀ m, w.server.findServerByMatchId m = match w.server.gameServers.get? (m - 10000000) with
      | some g => .ok g
      | none => .error (.protocolViolation "No server found with specified match ID") := by
  have hi := hw.serverInv
  have hkeyed : ∀ k g, w.server.gameServers.get? k = some g →
      (w.server.gameServer g).serverId = some k ∧ 1 ≤ k ∧
        (w.server.gameServer g).matchId = some (k + 10000000) :=
    fun k g h => (hi g).keyed k h
  have hkey : ∀ g ∈ w.server.gameServers.values, ∃ k, w.server.gameServers.get? k = some g ∧
      1 ≤ k ∧ (w.server.gameServer g).matchId = some (k + 10000000) := fun g hg => by
    obtain ⟨k, hk⟩ := Dict.mem_values_iff_get?.1 hg
    exact ⟨k, hk, (hkeyed k g hk).2⟩
  refine ⟨hkeyed, fun g => (hi g).held, fun g g' hg hg' hne heq => ?_,
    fun g g' i hg _ _ hlt heq => ?_, fun i => ?_, fun m => ?_⟩
  · obtain ⟨k, hk, -, hm⟩ := hkey g hg
    obtain ⟨k', hk', -, hm'⟩ := hkey g' hg'
    rw [hm, hm', Option.some.injEq] at heq
    obtain rfl : k = k' := by omega
    exact hne (Option.some.inj (hk.symm.trans hk'))
  · obtain ⟨k, -, h1, hm⟩ := hkey g hg
    rw [hm, Option.some.injEq] at heq
    omega
  · have hf : w.server.gameServers.values.find? (fun r => (w.server.gameServer r).serverId == some i) =
        w.server.gameServers.get? i := Dict.find?_values_of_keyed _ i fun k' v hv => by
      simp [(hkeyed k' v (Dict.get?_eq_some.2 hv)).1]
    rcases hg : w.server.gameServers.get? i <;> simp only [LoginServer.findServerById, hf, hg]
  · have hf : w.server.gameServers.values.find? (fun r => (w.server.gameServer r).matchId == some m) =
        w.server.gameServers.get? (m - 10000000) := Dict.find?_values_of_keyed _ _ fun k' v hv => by
      simp only [(hkeyed k' v (Dict.get?_eq_some.2 hv)).2.2, beq_iff_eq, Option.some.injEq]
      omega
    rcases hg : w.server.gameServers.get? (m - 10000000) <;>
      simp only [LoginServer.findServerByMatchId, hf, hg]

/-- The world that answers `pending_callbacks.remove_receiver` for game server 0 by raising. -/
def removeReceiverFails : Outside := ⟨fun c => decide (c = .removeReceiver (.gameServer 0)), []⟩

/-- Game server 0 connects, and `pending_callbacks.remove_receiver` raises in its disconnect: the
transport has disconnected it, yet `game_servers` still holds it under id 1, where
`find_server_by_id(1)` finds it. -/
theorem failed_removeReceiver_keeps_server :
    let w := (World.initial.next sampleConfig .normal (.peerConnected (.gameServer 0))).next
      sampleConfig removeReceiverFails (.peerDisconnected (.gameServer 0))
    Reachable sampleConfig (fun _ _ => True) w ∧ w.phase (.gameServer 0) = .gone ∧
      w.server.gameServers.get? 1 = some 0 ∧ w.server.findServerById 1 = .ok 0 :=
  ⟨(Reachable.initial.step (m := .peerConnected (.gameServer 0)) rfl trivial).step
    (m := .peerDisconnected (.gameServer 0)) rfl trivial, by decide, by decide, rfl⟩

/-- Game servers 0 and 1 connect, 0 disconnects, and 2 connects, taking id 1 again; 2 reports its
map. -/
def serverRun : List Message :=
  [.peerConnected (.gameServer 0), .peerConnected (.gameServer 1),
    .peerDisconnected (.gameServer 0), .peerConnected (.gameServer 2), .launcherMapInfo 2 7]

/-- The world after `serverRun`, every external call returning. -/
def serverWorld : World := serverRun.foldl (World.next sampleConfig .normal) World.initial

/-- Match id 10,000,001 finds server 2, which reused id 1. -/
theorem serverWorld_findServerByMatchId :
    serverWorld.server.findServerByMatchId 10000001 = .ok 2 := by
  have h := (gameServerRegistry_consistent sampleConfig serverWorld
    (@Reachable.foldl_next sampleConfig serverRuns _ .initial serverRun (fun _ _ _ => rfl)
      (by decide))).2.2.2.2.2 10000001
  have hget : serverWorld.server.gameServers.get? (10000001 - 10000000) = some 2 := by decide
  rw [h, hget]

end Taserver
