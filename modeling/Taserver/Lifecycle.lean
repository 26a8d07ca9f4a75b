import Taserver.Login

/-! The effects of a peer's connect and disconnect on the registries. A connecting player gets the
first unused id from 10,000,000 on and a connecting game server the first unused id from 1 on,
with its match id 10,000,000 above. A disconnect deletes the registry entry under the id the
peer holds, whichever peer that entry maps to: after a connect that raised between setting the id
and storing the peer, or after a second disconnect, that entry can be another peer's. -/

namespace Taserver

section Players

variable (s : LoginServer) (r : Nat)

/-- A player's connect when every external call returns. -/
theorem connectPlayer_normal :
    ∃ s', handleClientConnectedMessage .normal (.player r) s = .ok () s' ∧
      s'.players = s.players.setItem (firstUnusedNumberAbove s.players.keys 10000000) r ∧
      s'.player r = { s.player r with
        uniqueId := some (firstUnusedNumberAbove s.players.keys 10000000)
        state := some .unauthenticated } ∧
      ∀ q, q ≠ r → s'.player q = s.player q := by
  simp [handleClientConnectedMessage, setState, LoginServer.player]
  exact fun q hq hq' => absurd hq' hq

/-- A player's disconnect when every external call returns, from a state where it holds the
registry key `k`: the entry of `k` is deleted, whichever player it maps to, and the player's state
is set to offline. -/
theorem disconnectPlayer_normal {k : Int} (hk : (s.player r).uniqueId = some k)
    (hmem : k ∈ s.players.keys) :
    ∃ s', handleClientDisconnectedMessage .normal (.player r) s = .ok () s' ∧
      s'.players = s.players.erase k ∧ s'.player r = { s.player r with state := some .offline } ∧
      ∀ q, q ≠ r → s'.player q = s.player q := by
  simp [handleClientDisconnectedMessage, setState, LoginServer.player, delItem, hk, hmem]
  exact fun q hq hq' => absurd hq' hq

end Players

section GameServers

variable (s : LoginServer) (r : Nat)

/-- A game server's connect, which makes no external call: the first unused id from 1 on, and the
match id 10,000,000 above it. -/
theorem connectGameServer (out : Outside) :
    ∃ s', handleClientConnectedMessage out (.gameServer r) s = .ok () s' ∧
      s'.gameServers = s.gameServers.setItem (firstUnusedNumberAbove s.gameServers.keys 1) r ∧
      (s'.gameServer r).serverId = some (firstUnusedNumberAbove s.gameServers.keys 1) ∧
      (s'.gameServer r).matchId = some (firstUnusedNumberAbove s.gameServers.keys 1 + 10000000) ∧
      ∀ g, g ≠ r → s'.gameServer g = s.gameServer g := by
  simp only [handleClientConnectedMessage, Handler.bind_apply, Handler.get_apply,
    updateGameServer_apply, Handler.modify_apply, EStateM.Result.ok.injEq, true_and, exists_eq_left']
  refine ⟨rfl, ?_, ?_, fun g hg => ?_⟩ <;> simp [LoginServer.gameServer, *]

/-- A game server's disconnect when every external call returns, from a state where it holds the
registry key `k`: the entry of `k` is deleted, whichever server it maps to. -/
theorem disconnectGameServer_normal {k : Int} (hk : (s.gameServer r).serverId = some k)
    (hmem : k ∈ s.gameServers.keys) :
    ∃ s', handleClientDisconnectedMessage .normal (.gameServer r) s = .ok () s' ∧
      s'.gameServers = s.gameServers.erase k ∧ ∀ g, s'.gameServer g = s.gameServer g := by
  simp [handleClientDisconnectedMessage, LoginServer.gameServer, delItem, hk, hmem]

end GameServers

/-! ### A disconnect that deletes another peer's entry -/

/-- The world in which `complement_address_pair` of player 0 raises. -/
def complementFails : Outside := ⟨fun c => decide (c = .complementAddressPair 0), []⟩

/-- Player 0's connect raises after its id 10,000,000 is set and before it is stored; player 1 gets
the same id, and player 0's disconnect deletes player 1's entry. A second disconnect of a game
server whose id 1 another server reused deletes that server's entry. -/
theorem disconnect_deletes_other_peers_entry :
    (LoginServer.run sampleConfig .initial
        [(.peerConnected (.player 0), complementFails), (.peerConnected (.player 1), .normal)]
      ).2.state.players.items = [(10000000, 1)] ∧
    (LoginServer.run sampleConfig .initial
        [(.peerConnected (.player 0), complementFails), (.peerConnected (.player 1), .normal),
          (.peerDisconnected (.player 0), .normal)]).2.state.players.items = [] ∧
    (LoginServer.run sampleConfig .initial
        [(.peerConnected (.gameServer 0), .normal), (.peerDisconnected (.gameServer 0), .normal),
          (.peerConnected (.gameServer 1), .normal)]).2.state.gameServers.items = [(1, 1)] ∧
    (LoginServer.run sampleConfig .initial
        [(.peerConnected (.gameServer 0), .normal), (.peerDisconnected (.gameServer 0), .normal),
          (.peerConnected (.gameServer 1), .normal), (.peerDisconnected (.gameServer 0), .normal)]
      ).2.state.gameServers.items = [] := by
  decide

end Taserver
