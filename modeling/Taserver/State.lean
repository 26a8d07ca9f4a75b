import Taserver.Dict
import Taserver.Names

/-! The state of the login server: its registries `players` and `game_servers`, the player and
game-server objects they refer to, and the record of the calls it has made to the world outside
the core. Handlers run in `EStateM`, so that an exception keeps the state reached when it was
raised, as in Python. An external call raises when the world makes it raise; the world's answers
for one message are an `Outside`. -/

namespace Taserver

/-- The classes `player.set_state` is given by the login server: `UnauthenticatedState` on
connect, `AuthenticatedState` after a login (standing also for the gameplay states after it, which
are out of scope) and `OfflineState` on disconnect. -/
inductive PlayerState
  | unauthenticated
  | authenticated
  | offline
  deriving DecidableEq, Repr

/-- Modelled from the spec: player.py is not under src/. The fields of a `Player` that the login
server reads or writes; a new player has none of them set (spec 3). -/
structure Player where
  uniqueId : Option Int := none
  loginName : Option String := none
  passwordHash : Option (List UInt8) := none
  displayName : Option String := none
  registered : Bool := false
  team : Option Int := none
  gameServer : Option Nat := none
  lastReceivedSeq : Nat := 0
  state : Option PlayerState := none
  deriving DecidableEq, Repr

/-- An IPv4 address by its four octets. -/
abbrev IPv4 := List Nat

/-- Modelled from the spec: gameserver.py is not under src/. The fields of a `GameServer` that
the login server and the launcher events write (spec 3); `joinable` and `players`, which only
`send_server_stats` reads, are left out. -/
structure GameServer where
  serverId : Option Int := none
  matchId : Option Int := none
  gameSettingMode : Option String := none
  description : Option String := none
  motd : Option String := none
  passwordHash : Option (List UInt8) := none
  mapId : Option Int := none
  beScore : Option Int := none
  dsScore : Option Int := none
  matchTime : Option (Int × Bool) := none
  port : Option Int := none
  addressPair : Option (Option IPv4 × Option IPv4) := none
  deriving DecidableEq, Repr

/-- The object a message comes from, by its class and its identity. -/
inductive Peer
  | player (ref : Nat)
  | gameServer (ref : Nat)
  | authCodeRequester (ref : Nat)
  /-- Any other object, such as the web handler of an HTTP request. -/
  | other (ref : Nat)
  deriving DecidableEq, Repr

/-- A request of a login-protocol message: `a01bc`, `a0033`, the login request `a003a` with its
`m0494` login name and `m0056` password hash when present, or another packet by its id. -/
inductive Request
  | a01bc
  | a0033
  | a003a (loginName : Option String) (passwordHash : Option (List UInt8))
  | other (ident : Nat)
  deriving DecidableEq, Repr

/-- What the login server sends to a peer. -/
inductive Reply
  | a01bc
  | a0197
  | a0033
  | a003a
  /-- `a003d` with `m0442().set_success(False)` and `STDMSG_LOGIN_INFO_INVALID`. -/
  | loginRejected
  /-- `a003d` with the menu data and the player, `m0442().set_success(True)` and
  `STDMSG_LOGIN_IS_VALID`. -/
  | loginAccepted
  | text (s : String)
  /-- `Login2LauncherProtocolVersionMessage(str(my_version))`. -/
  | protocolVersion (version : String)
  deriving DecidableEq, Repr

/-- A call of the core to a collaborator outside it. -/
inductive Call
  | send (peer : Peer) (reply : Reply)
  | disconnect (peer : Peer)
  /-- `message.peer.disconnect(e)` of the dispatch loop, after the message's handler raised `e`. -/
  | disconnectWith (peer : Peer)
  | connectToSocialNetwork (player : Nat)
  | complementAddressPair (player : Nat)
  | setState (player : Nat) (state : PlayerState)
  | load (player : Nat)
  | removeReceiver (peer : Peer)
  | execute (callbackId : Nat)
  | addAccount (loginName authcode : String)
  | saveAccounts
  /-- `msg.peer.send_response(...)`: the counts of `/status`, or `None`. -/
  | sendResponse (peer : Nat) (status : Option (Nat × Nat))
  /-- A request handled by a gameplay state after login, which is out of scope. -/
  | gameplay (player : Nat) (request : Request)
  | setAddressInfo (gameServer : Nat)
  | setInfo (gameServer : Nat)
  | setMatchTime (gameServer : Nat)
  | setReady (gameServer : Nat)
  deriving DecidableEq, Repr

/-- The exceptions of the core, and those raised by a collaborator. -/
inductive Error
  | protocolViolation (message : String)
  | alreadyLoggedIn
  | assertion
  | keyError
  | valueError
  | attributeError
  | unicodeEncode
  | external (call : Call)
  deriving DecidableEq, Repr

/-- The messages of the server queue, one constructor for each entry of `message_handlers`. -/
inductive Message
  | authCodeRequest (peer : Nat) (loginName : String)
  | executeCallback (callbackId : Nat)
  | httpRequest (peer : Nat) (path : String)
  | peerConnected (peer : Peer)
  | peerDisconnected (peer : Peer)
  | loginProtocol (peer : Nat) (clientSeq : Nat) (requests : List Request)
  | launcherProtocolVersion (peer : Nat) (version : String)
  | launcherAddressInfo (peer : Nat) (externalIp internalIp : Option String)
  | launcherServerInfo (peer : Nat) (description motd gameSettingMode : String)
      (passwordHash : Option (List Int))
  | launcherMapInfo (peer : Nat) (mapId : Int)
  | launcherTeamInfo (peer : Nat) (playerToTeamId : List (String × Int))
  | launcherScoreInfo (peer : Nat) (beScore dsScore : Int)
  | launcherMatchTime (peer : Nat) (secondsRemaining : Int) (counting : Bool)
  | launcherServerReady (peer : Nat) (port : Option Int)
  | launcherMatchEnd (peer : Nat)
  deriving DecidableEq, Repr

/-- `message.peer` when the message has that attribute: every message but `ExecuteCallback`. -/
def Message.peer? : Message → Option Peer
  | .authCodeRequest p _ => some (.authCodeRequester p)
  | .executeCallback _ => none
  | .httpRequest p _ => some (.other p)
  | .peerConnected p | .peerDisconnected p => some p
  | .loginProtocol p _ _ => some (.player p)
  | .launcherProtocolVersion p _ | .launcherAddressInfo p _ _ | .launcherServerInfo p _ _ _ _
  | .launcherMapInfo p _ | .launcherTeamInfo p _ | .launcherScoreInfo p _ _
  | .launcherMatchTime p _ _ | .launcherServerReady p _ | .launcherMatchEnd p =>
    some (.gameServer p)

/-- A record of the account store: the only parts of it the core reads. -/
structure Account where
  passwordHash : List UInt8
  uniqueId : Int
  deriving DecidableEq, Repr

/-- The pre-release tags of a `StrictVersion`. -/
inductive PrereleaseTag
  | a
  | b
  deriving DecidableEq, Repr

/-- A `StrictVersion`: its `version`, whose patch is 0 when the string has none, and its
`prerelease` tag and number. -/
structure StrictVersion where
  version : Nat × Nat × Nat
  prerelease : Option (PrereleaseTag × Nat) := none
  deriving DecidableEq, Repr

/-- What the login server reads: the name rules, the account store by login name, and
`launcher2loginserver_protocol_version` (common/versions.py is not under src/). The store is fixed:
what `add_account` writes to it is not modelled. -/
structure Config where
  rules : NameRules
  accounts : String → Option Account
  protocolVersion : StrictVersion

/-- The world's answers while one message is handled: which external calls raise, and the
indices `random.choice` picks. -/
structure Outside where
  raises : Call → Bool
  randomChoices : List Nat

/-- The world of a run in which every external call returns normally. -/
def Outside.normal : Outside := ⟨fun _ => false, []⟩

@[simp] theorem Outside.normal_raises (c : Call) : Outside.normal.raises c = false := rfl

/-- The login server's registries, the objects they refer to, and the external calls made. -/
structure LoginServer where
  players : Dict Int Nat
  gameServers : Dict Int Nat
  playerObjects : Nat → Player
  gameServerObjects : Nat → GameServer
  calls : List Call

/-- A login server with empty registries, before any peer has connected. -/
def LoginServer.initial : LoginServer := ⟨.empty, .empty, fun _ => {}, fun _ => {}, []⟩

/-- The player object `r`. -/
abbrev LoginServer.player (s : LoginServer) (r : Nat) : Player := s.playerObjects r

/-- The game-server object `r`. -/
abbrev LoginServer.gameServer (s : LoginServer) (r : Nat) : GameServer := s.gameServerObjects r

/-- The state with the external calls `cs` recorded after those made so far. -/
def LoginServer.record (s : LoginServer) (cs : List Call) : LoginServer :=
  { s with calls := s.calls ++ cs }

/-- The state with player object `r` changed by `f`. -/
def LoginServer.updatePlayer (s : LoginServer) (r : Nat) (f : Player → Player) : LoginServer :=
  { s with playerObjects := Function.update s.playerObjects r (f (s.playerObjects r)) }

/-- The state with game-server object `r` changed by `f`. -/
def LoginServer.updateGameServer (s : LoginServer) (r : Nat) (f : GameServer → GameServer) :
    LoginServer :=
  { s with gameServerObjects := Function.update s.gameServerObjects r (f (s.gameServerObjects r)) }

namespace LoginServer

variable (s : LoginServer) (r r' : Nat) (f f' : Player → Player) (g : GameServer → GameServer)
  (cs cs' : List Call)

@[simp] theorem record_players : (s.record cs).players = s.players := rfl
@[simp] theorem record_gameServers : (s.record cs).gameServers = s.gameServers := rfl
@[simp] theorem record_playerObjects : (s.record cs).playerObjects = s.playerObjects := rfl
@[simp] theorem record_gameServerObjects :
    (s.record cs).gameServerObjects = s.gameServerObjects := rfl
@[simp] theorem record_nil : s.record [] = s := by simp [record]
@[simp] theorem record_record : (s.record cs).record cs' = s.record (cs ++ cs') := by
  simp [record]
@[simp] theorem updatePlayer_record : (s.record cs).updatePlayer r f = (s.updatePlayer r f).record cs :=
  rfl
@[simp] theorem updateGameServer_record :
    (s.record cs).updateGameServer r g = (s.updateGameServer r g).record cs := rfl
@[simp] theorem updatePlayer_updatePlayer :
    (s.updatePlayer r f).updatePlayer r f' = s.updatePlayer r (f' ∘ f) := by
  simp [updatePlayer]

@[simp] theorem updatePlayer_players : (s.updatePlayer r f).players = s.players := rfl
@[simp] theorem updatePlayer_gameServers : (s.updatePlayer r f).gameServers = s.gameServers := rfl
@[simp] theorem updatePlayer_gameServerObjects :
    (s.updatePlayer r f).gameServerObjects = s.gameServerObjects := rfl
@[simp] theorem updatePlayer_calls : (s.updatePlayer r f).calls = s.calls := rfl
@[simp] theorem updatePlayer_playerObjects :
    (s.updatePlayer r f).playerObjects r' = if r' = r then f (s.playerObjects r) else
      s.playerObjects r' := by
  simp only [updatePlayer, Function.update_apply]

@[simp] theorem record_player : (s.record cs).player r = s.player r := rfl
@[simp] theorem updatePlayer_player :
    (s.updatePlayer r f).player r' = if r' = r then f (s.player r) else s.player r' :=
  updatePlayer_playerObjects s r r' f
@[simp] theorem updateGameServer_player : (s.updateGameServer r g).player r' = s.player r' := rfl

@[simp] theorem updateGameServer_players : (s.updateGameServer r g).players = s.players := rfl
@[simp] theorem updateGameServer_gameServers :
    (s.updateGameServer r g).gameServers = s.gameServers := rfl
@[simp] theorem updateGameServer_playerObjects :
    (s.updateGameServer r g).playerObjects = s.playerObjects := rfl
@[simp] theorem updateGameServer_calls : (s.updateGameServer r g).calls = s.calls := rfl
@[simp] theorem updateGameServer_gameServerObjects :
    (s.updateGameServer r g).gameServerObjects r' = if r' = r then g (s.gameServerObjects r) else
      s.gameServerObjects r' := by
  simp only [updateGameServer, Function.update_apply]

end LoginServer

/-- A handler: it returns, or raises with the state reached when it raised. -/
abbrev Handler := EStateM Error LoginServer

/-- The state a handler leaves, whether it returned or raised. -/
def resultState {α : Type} : EStateM.Result Error LoginServer α → LoginServer
  | .ok _ s => s
  | .error _ s => s

@[simp] theorem resultState_ok {α : Type} (a : α) (s : LoginServer) :
    resultState (.ok a s : EStateM.Result Error LoginServer α) = s := rfl
@[simp] theorem resultState_error {α : Type} (e : Error) (s : LoginServer) :
    resultState (.error e s : EStateM.Result Error LoginServer α) = s := rfl

namespace Handler

variable {α β : Type} (s : LoginServer)

@[simp] theorem get_apply : (get : Handler LoginServer) s = .ok s s := rfl
@[simp] theorem pure_apply (a : α) : (pure a : Handler α) s = .ok a s := rfl
@[simp] theorem throw_apply (e : Error) : (throw e : Handler α) s = .error e s := rfl
@[simp] theorem set_apply (s' : LoginServer) : (set s' : Handler PUnit) s = .ok () s' := rfl
@[simp] theorem modify_apply (f : LoginServer → LoginServer) :
    (modify f : Handler Unit) s = .ok () (f s) := rfl
@[simp] theorem map_apply (x : Handler α) (f : α → β) :
    (f <$> x) s = match x s with
      | .ok a s' => .ok (f a) s'
      | .error e s' => .error e s' := by
  show EStateM.map f x s = _
  simp only [EStateM.map]
  rcases x s <;> rfl
@[simp] theorem bind_apply (x : Handler α) (f : α → Handler β) :
    (x >>= f) s = match x s with
      | .ok a s' => f a s'
      | .error e s' => .error e s' := by
  show EStateM.bind x f s = _
  simp only [EStateM.bind]
  rcases x s <;> rfl

/-- A sequence raises when its first part raises, or when the rest raises after it returned. -/
theorem bind_eq_error {x : Handler α} {f : α → Handler β} {e : Error} {s' : LoginServer}
    (h : (x >>= f) s = .error e s') :
    x s = .error e s' ∨ ∃ a s₁, x s = .ok a s₁ ∧ f a s₁ = .error e s' := by
  rw [bind_apply] at h
  rcases hx : x s with ⟨a, s₁⟩ | ⟨e', s₁⟩ <;> simp only [hx, EStateM.Result.error.injEq] at h
  · exact .inr ⟨a, s₁, rfl, h⟩
  · obtain ⟨rfl, rfl⟩ := h
    exact .inl rfl

end Handler

/-- An external call: it raises when the world makes it raise, and is recorded otherwise. -/
def call (out : Outside) (c : Call) : Handler Unit := fun s =>
  if out.raises c then .error (.external c) s else .ok () (s.record [c])

/-- Change player object `r` by `f`. -/
def updatePlayer (r : Nat) (f : Player → Player) : Handler Unit :=
  modify fun s => s.updatePlayer r f

/-- Change game-server object `r` by `f`. -/
def updateGameServer (r : Nat) (f : GameServer → GameServer) : Handler Unit :=
  modify fun s => s.updateGameServer r f

@[simp] theorem call_apply (out : Outside) (c : Call) (s : LoginServer) :
    call out c s = if out.raises c then .error (.external c) s else .ok () (s.record [c]) := rfl

@[simp] theorem updatePlayer_apply (r : Nat) (f : Player → Player) (s : LoginServer) :
    updatePlayer r f s = .ok () (s.updatePlayer r f) := rfl

@[simp] theorem updateGameServer_apply (r : Nat) (g : GameServer → GameServer) (s : LoginServer) :
    updateGameServer r g s = .ok () (s.updateGameServer r g) := rfl

/-- Modelled from the spec: player.py is not under src/. `player.set_state(cls)`, an external
call that sets the player's state when it returns. -/
def setState (out : Outside) (r : Nat) (state : PlayerState) : Handler Unit := do
  call out (.setState r state)
  updatePlayer r fun p => { p with state := some state }

end Taserver
