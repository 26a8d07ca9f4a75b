import Taserver.Allocator
import Taserver.Unauthenticated
import Mathlib.Data.List.GetD

/-! The handlers of `LoginServer` for the messages of the peers' life: an auth-code request, a
deferred callback, an HTTP request, a peer connecting and disconnecting, and a login-protocol
message. A connecting player gets the first unused id from 10,000,000 on, a connecting game server
the first unused id from 1 on, with the match id 10,000,000 above it. -/

namespace Taserver

/-- `string.ascii_letters + string.digits` without the characters of `'O0Il'`. -/
def availableChars : List Char :=
  ("abcdefghijklmnopqrstuvwxyzABCDEFGHIJKLMNOPQRSTUVWXYZ" ++ "0123456789").data.filter
    fun c => c ∉ "O0Il".data

/-- `''.join([random.choice(availablechars) for i in range(8)])`, with the world picking the
indices of the eight characters. -/
def authcodeOf (out : Outside) : String :=
  ⟨(List.range 8).map fun i =>
    availableChars.getD (out.randomChoices.getD i 0 % availableChars.length) 'a'⟩

/-- `LoginServer.handle_authcode_request_message` from requester `peer`. -/
def handleAuthcodeRequestMessage (cfg : Config) (out : Outside) (peer : Nat)
    (loginName : String) : Handler Unit :=
  match validateUsername cfg.rules loginName with
  | some failure => call out (.send (.authCodeRequester peer) (.text ("Error: " ++ failure)))
  | none => do
    let authcode := authcodeOf out
    call out (.addAccount loginName authcode)
    call out .saveAccounts
    call out (.send (.authCodeRequester peer) (.text authcode))

/-- `LoginServer.handle_execute_callback_message`: `pending_callbacks.execute(callback_id)`, which
runs a callback that a gameplay state scheduled (spec 4.4). pendingcallbacks.py and the gameplay
states are not under src/: the call is an external call, which may raise, and what the callback
does to the state is not modelled. -/
def handleExecuteCallbackMessage (out : Outside) (callbackId : Nat) : Handler Unit :=
  call out (.execute callbackId)

/-- `LoginServer.handle_client_connected_message`. -/
def handleClientConnectedMessage (out : Outside) : Peer → Handler Unit
  | .player r => do
    let uniqueId := firstUnusedNumberAbove (← get).players.keys 10000000
    call out (.connectToSocialNetwork r)
    updatePlayer r fun p => { p with uniqueId := some uniqueId }
    call out (.complementAddressPair r)
    setState out r .unauthenticated
    modify fun s => { s with players := s.players.setItem uniqueId r }
  | .gameServer r => do
    let serverId := firstUnusedNumberAbove (← get).gameServers.keys 1
    updateGameServer r fun g => { g with serverId := some serverId }
    updateGameServer r fun g => { g with matchId := some (serverId + 10000000) }
    updateGameServer r fun g => { g with gameSettingMode := none }
    modify fun s => { s with gameServers := s.gameServers.setItem serverId r }
  | .authCodeRequester _ => pure ()
  | .other _ => throw .assertion

/-- `del d[k]`, whose key is `player.unique_id` or `game_server.server_id`: a `KeyError` when the
key is `None` or not in the dictionary. -/
def delItem (d : Dict Int Nat) : Option Int → Except Error (Dict Int Nat)
  | some k => if k ∈ d.keys then .ok (d.erase k) else .error .keyError
  | none => .error .keyError

/-- `LoginServer.handle_client_disconnected_message`. -/
def handleClientDisconnectedMessage (out : Outside) : Peer → Handler Unit
  | .player r => do
    call out (.disconnect (.player r))
    call out (.removeReceiver (.player r))
    setState out r .offline
    let s ← get
    match delItem s.players (s.player r).uniqueId with
    | .ok players => set { s with players }
    | .error e => throw e
  | .gameServer r => do
    call out (.disconnect (.gameServer r))
    call out (.removeReceiver (.gameServer r))
    let s ← get
    match delItem s.gameServers (s.gameServer r).serverId with
    | .ok gameServers => set { s with gameServers }
    | .error e => throw e
  | .authCodeRequester r => call out (.disconnect (.authCodeRequester r))
  | .other _ => throw .assertion

/-- `LoginServer.handle_client_message` from player `r`: each request in turn, until one raises. -/
def handleClientMessage (cfg : Config) (out : Outside) (r clientSeq : Nat)
    (requests : List Request) : Handler Unit := do
  updatePlayer r fun p => { p with lastReceivedSeq := clientSeq }
  requests.forM (handleRequest cfg out r)

/-- `LoginServer.handle_http_request_message`: the numbers of players and game servers for
`/status`, and an empty response otherwise. -/
def handleHttpRequestMessage (out : Outside) (peer : Nat) (path : String) : Handler Unit := do
  let s ← get
  if path = "/status" then
    call out (.sendResponse peer (some (s.players.items.length, s.gameServers.items.length)))
  else call out (.sendResponse peer none)

end Taserver
