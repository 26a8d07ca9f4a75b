import Taserver.Run

/-! Frames: what a handler leaves alone. `Keeps F x` says that the state `x` leaves, whether it
returns or raises, is related by `F` to the state it starts in. The invariants of the registries
read two views of the login server: the `Roster` (the player registry and, of every player, its
unique id, login name, registered flag, display name and state) and the `Fleet` (the game-server
registry and every server id and match id). Every message but those of a player's life keeps the
roster, and every message but the connect and disconnect of a game server keeps the fleet,
whatever the world outside does. -/

namespace Taserver

/-- A relation between the state a handler starts in and the one it leaves that every external
call keeps and that composes. -/
structure IsFrame (F : LoginServer → LoginServer → Prop) : Prop where
  refl : ∀ s, F s s
  trans : ∀ {s₁ s₂ s₃}, F s₁ s₂ → F s₂ s₃ → F s₁ s₃
  record : ∀ s cs, F s (s.record cs)

/-- Handler `x` keeps `F`, whether it returns or raises. -/
def Keeps (F : LoginServer → LoginServer → Prop) {α : Type} (x : Handler α) : Prop :=
  ∀ s, F s (resultState (x s))

section Keeps

variable {F : LoginServer → LoginServer → Prop} (hF : IsFrame F) {α β : Type}
include hF

theorem Keeps.pure (a : α) : Keeps F (pure a : Handler α) := hF.refl

theorem Keeps.throw (e : Error) : Keeps F (throw e : Handler α) := hF.refl

theorem Keeps.get : Keeps F (get : Handler LoginServer) := hF.refl

theorem Keeps.call (out : Outside) (c : Call) : Keeps F (call out c) := fun s => by
  by_cases h : out.raises c = true
  · simpa [h] using hF.refl s
  · simpa [h] using hF.record s [c]

theorem Keeps.bind {x : Handler α} {f : α → Handler β} (hx : Keeps F x)
    (hf : ∀ a, Keeps F (f a)) : Keeps F (x >>= f) := fun s => by
  have := hx s
  simp only [Handler.bind_apply]
  rcases h : x s with ⟨a, s'⟩ | ⟨e, s'⟩ <;> rw [h] at this
  · exact hF.trans this (hf a s')
  · exact this

theorem Keeps.forM {xs : List α} {f : α → Handler Unit} (hf : ∀ a, Keeps F (f a)) :
    Keeps F (xs.forM f) := by
  induction xs with
  | nil => exact Keeps.pure hF ()
  | cons a xs ih => exact Keeps.bind hF (hf a) fun _ => ih

theorem Keeps.liftExcept (x : Except Error α) : Keeps F (liftExcept x) := by
  cases x
  · exact Keeps.throw hF _
  · exact Keeps.pure hF _

theorem Keeps.setState (out : Outside) (r : Nat) (st : PlayerState)
    (hu : Keeps F (updatePlayer r fun p => { p with state := some st })) :
    Keeps F (setState out r st) :=
  Keeps.bind hF (Keeps.call hF _ _) fun _ => hu

end Keeps

theorem Keeps.map {F : LoginServer → LoginServer → Prop} {α β : Type} {x : Handler α}
    (f : α → β) (hx : Keeps F x) : Keeps F (f <$> x) := fun s => by
  have := hx s
  simp only [Handler.map_apply]
  rcases h : x s with ⟨a, s'⟩ | ⟨e, s'⟩ <;> rw [h] at this <;> exact this

theorem Keeps.mono {F G : LoginServer → LoginServer → Prop} (hFG : ∀ s s', F s s' → G s s')
    {α : Type} {x : Handler α} (hx : Keeps F x) : Keeps G x :=
  fun s => hFG _ _ (hx s)

/-- A handler that reads the state first keeps `F` when each continuation keeps it from the state
it read. -/
theorem keeps_get_bind {F : LoginServer → LoginServer → Prop} {β : Type}
    {f : LoginServer → Handler β} (h : ∀ s, F s (resultState (f s s))) : Keeps F (get >>= f) :=
  fun s => by simpa using h s

theorem keeps_modify {F : LoginServer → LoginServer → Prop} {f : LoginServer → LoginServer}
    (h : ∀ s, F s (f s)) : Keeps F (modify f) :=
  fun s => by simpa using h s

/-- Only external calls were made. -/
def Recorded (s s' : LoginServer) : Prop := ∃ cs, s' = s.record cs

theorem isFrame_recorded : IsFrame Recorded where
  refl s := ⟨[], by simp⟩
  trans := by
    rintro _ _ _ ⟨cs, rfl⟩ ⟨cs', rfl⟩
    exact ⟨cs ++ cs', by simp⟩
  record s cs := ⟨cs, rfl⟩

/-- A frame that every external call keeps also keeps a handler that only makes external calls. -/
theorem Keeps.of_recorded {F : LoginServer → LoginServer → Prop} (hF : IsFrame F) {α : Type}
    {x : Handler α} (hx : Keeps Recorded x) : Keeps F x :=
  Keeps.mono (fun s _ ⟨cs, hs⟩ => hs ▸ hF.record s cs) hx

/-! ### The views the invariants read -/

/-- What the player invariants read of the login server: the player registry and, of every player
object, its unique id, login name, registered flag, display name and state. -/
structure Roster where
  players : Dict Int Nat
  uniqueId : Nat → Option Int
  loginName : Nat → Option String
  registered : Nat → Bool
  displayName : Nat → Option String
  state : Nat → Option PlayerState

/-- The roster of a login server. -/
def LoginServer.roster (s : LoginServer) : Roster :=
  ⟨s.players, fun r => (s.player r).uniqueId, fun r => (s.player r).loginName,
    fun r => (s.player r).registered, fun r => (s.player r).displayName, fun r => (s.player r).state⟩

/-- What the game-server invariants read of the login server: the game-server registry and every
server id and match id. -/
structure Fleet where
  gameServers : Dict Int Nat
  serverId : Nat → Option Int
  matchId : Nat → Option Int

/-- The fleet of a login server. -/
def LoginServer.fleet (s : LoginServer) : Fleet :=
  ⟨s.gameServers, fun r => (s.gameServer r).serverId, fun r => (s.gameServer r).matchId⟩

/-- What the roster reads of a player. -/
def Player.core (p : Player) : Option Int × Option String × Bool × Option String ×
    Option PlayerState :=
  (p.uniqueId, p.loginName, p.registered, p.displayName, p.state)

/-- What the fleet reads of a game server. -/
def GameServer.core (g : GameServer) : Option Int × Option Int := (g.serverId, g.matchId)

namespace LoginServer

variable (s : LoginServer) (r : Nat) (cs : List Call)

@[simp] theorem roster_players : s.roster.players = s.players := rfl
@[simp] theorem roster_uniqueId : s.roster.uniqueId r = (s.player r).uniqueId := rfl
@[simp] theorem roster_loginName : s.roster.loginName r = (s.player r).loginName := rfl
@[simp] theorem roster_registered : s.roster.registered r = (s.player r).registered := rfl
@[simp] theorem roster_displayName : s.roster.displayName r = (s.player r).displayName := rfl
@[simp] theorem roster_state : s.roster.state r = (s.player r).state := rfl
@[simp] theorem fleet_gameServers : s.fleet.gameServers = s.gameServers := rfl
@[simp] theorem fleet_serverId : s.fleet.serverId r = (s.gameServer r).serverId := rfl
@[simp] theorem fleet_matchId : s.fleet.matchId r = (s.gameServer r).matchId := rfl

@[simp] theorem roster_record : (s.record cs).roster = s.roster := rfl
@[simp] theorem fleet_record : (s.record cs).fleet = s.fleet := rfl
@[simp] theorem roster_updateGameServer (g : GameServer → GameServer) :
    (s.updateGameServer r g).roster = s.roster := rfl
@[simp] theorem fleet_updatePlayer (f : Player → Player) : (s.updatePlayer r f).fleet = s.fleet :=
  rfl

theorem roster_updatePlayer {f : Player → Player} (hf : ∀ p, (f p).core = p.core) :
    (s.updatePlayer r f).roster = s.roster := by
  simp only [Player.core, Prod.mk.injEq] at hf
  simp only [roster, updatePlayer_players, updatePlayer_playerObjects, Roster.mk.injEq, true_and]
  refine ⟨?_, ?_, ?_, ?_, ?_⟩ <;> funext r' <;> split <;> simp_all

theorem fleet_updateGameServer {g : GameServer → GameServer} (hg : ∀ x, (g x).core = x.core) :
    (s.updateGameServer r g).fleet = s.fleet := by
  simp only [GameServer.core, Prod.mk.injEq] at hg
  simp only [fleet, updateGameServer_gameServers, updateGameServer_gameServerObjects,
    Fleet.mk.injEq, true_and]
  constructor <;> funext r' <;> split <;> simp_all

end LoginServer

/-- The roster is unchanged. -/
def PlayersFrame (s s' : LoginServer) : Prop := s'.roster = s.roster

/-- The fleet is unchanged. -/
def ServersFrame (s s' : LoginServer) : Prop := s'.fleet = s.fleet

theorem isFrame_playersFrame : IsFrame PlayersFrame where
  refl _ := rfl
  trans h₁ h₂ := h₂.trans h₁
  record _ _ := rfl

theorem isFrame_serversFrame : IsFrame ServersFrame where
  refl _ := rfl
  trans h₁ h₂ := h₂.trans h₁
  record _ _ := rfl

/-- A frame that changes of objects outside what the views read keep. -/
structure ObjectFrame (F : LoginServer → LoginServer → Prop) extends IsFrame F : Prop where
  updatePlayer : ∀ r f, (∀ p, (f p).core = p.core) → Keeps F (updatePlayer r f)
  updateGameServer : ∀ r g, (∀ x, (g x).core = x.core) → Keeps F (updateGameServer r g)

theorem objectFrame_playersFrame : ObjectFrame PlayersFrame where
  toIsFrame := isFrame_playersFrame
  updatePlayer _ _ hf s := s.roster_updatePlayer _ hf
  updateGameServer _ _ _ _ := rfl

theorem objectFrame_serversFrame : ObjectFrame ServersFrame where
  toIsFrame := isFrame_serversFrame
  updatePlayer _ _ _ _ := rfl
  updateGameServer _ _ hg s := s.fleet_updateGameServer _ hg

/-! ### Handlers that only make external calls -/

section Recorded

variable (cfg : Config) (out : Outside)

theorem keeps_handleAuthcodeRequestMessage (p : Nat) (loginName : String) :
    Keeps Recorded (handleAuthcodeRequestMessage cfg out p loginName) := by
  have h := isFrame_recorded
  unfold handleAuthcodeRequestMessage
  split
  · exact Keeps.call h _ _
  · exact Keeps.bind h (Keeps.call h _ _) fun _ =>
      Keeps.bind h (Keeps.call h _ _) fun _ => Keeps.call h _ _

theorem keeps_handleHttpRequestMessage (p : Nat) (path : String) :
    Keeps Recorded (handleHttpRequestMessage out p path) := by
  have h := isFrame_recorded
  refine Keeps.bind h (Keeps.get h) fun s => ?_
  split <;> exact Keeps.call h _ _

theorem keeps_handleLauncherProtocolVersionMessage (r : Nat) (version : String) :
    Keeps Recorded (handleLauncherProtocolVersionMessage cfg out r version) := by
  have h := isFrame_recorded
  unfold handleLauncherProtocolVersionMessage
  split
  · exact Keeps.throw h _
  split
  · split
    · exact Keeps.bind h (Keeps.call h _ _) fun _ => Keeps.call h _ _
    · exact Keeps.pure h _
  · exact Keeps.throw h _

theorem keeps_handleA01bc (r : Nat) : Keeps Recorded (handleA01bc out r) :=
  Keeps.bind isFrame_recorded (Keeps.call isFrame_recorded _ _) fun _ =>
    Keeps.call isFrame_recorded _ _

theorem keeps_rejectLogin (r : Nat) (name : String) : Keeps Recorded (rejectLogin out r name) := by
  have h := isFrame_recorded
  refine Keeps.bind h (Keeps.call h _ _) fun _ => ?_
  split
  · exact Keeps.pure h _
  · exact Keeps.throw h _

end Recorded

/-! ### The launcher events -/

/-- A frame that the launcher events keep: every external call keeps it, the change of a player's
team, and every change of a game server outside the fleet's view. -/
structure LauncherFrame (F : LoginServer → LoginServer → Prop) extends IsFrame F : Prop where
  setTeam : ∀ r t, Keeps F (updatePlayer r fun p => { p with team := some t })
  updateGameServer : ∀ r g, (∀ x, (g x).core = x.core) → Keeps F (updateGameServer r g)

theorem ObjectFrame.toLauncherFrame {F : LoginServer → LoginServer → Prop} (hF : ObjectFrame F) :
    LauncherFrame F :=
  ⟨hF.toIsFrame, fun _ _ => hF.updatePlayer _ _ fun _ => rfl, hF.updateGameServer⟩

/-- A frame that the launcher events of game server `r` keep: every external call keeps it, the
change of a player's team, and every change of game server `r` outside the fleet's view. -/
structure LauncherFrameAt (r : Nat) (F : LoginServer → LoginServer → Prop) extends IsFrame F :
    Prop where
  setTeam : ∀ q t, Keeps F (updatePlayer q fun p => { p with team := some t })
  updateGameServer : ∀ g, (∀ x, (g x).core = x.core) → Keeps F (updateGameServer r g)

theorem LauncherFrame.at {F : LoginServer → LoginServer → Prop} (hF : LauncherFrame F) (r : Nat) :
    LauncherFrameAt r F :=
  ⟨hF.toIsFrame, hF.setTeam, hF.updateGameServer r⟩

/-- The peer of a launcher event is a game server. -/
theorem Message.isLauncher_peer? {m : Message} (hm : m.isLauncher = true) :
    ∃ r, m.peer? = some (.gameServer r) := by
  cases m <;> simp_all [Message.isLauncher, Message.peer?]

section Launcher

variable {F : LoginServer → LoginServer → Prop} {r : Nat} (hF : LauncherFrameAt r F)
  (out : Outside)
include hF

theorem keeps_setTeamOf (playerId : String) (teamId : Int) :
    Keeps F (setTeamOf r playerId teamId) := by
  unfold setTeamOf
  split
  · refine Keeps.bind hF.toIsFrame (Keeps.get hF.toIsFrame) fun s => ?_
    split
    · split
      · exact hF.setTeam _ _
      · exact Keeps.pure hF.toIsFrame _
    · exact Keeps.pure hF.toIsFrame _
  · exact Keeps.throw hF.toIsFrame _

/-- The launcher events of game server `r` keep every launcher frame of `r`: they change no
registry, no id, no other game server and no field of a player but its team. -/
theorem keeps_launcherAt (m : Message) (cfg : Config) (hm : m.isLauncher = true)
    (hp : m.peer? = some (.gameServer r)) : Keeps F (handleMessage cfg out m) := by
  have h := hF.toIsFrame
  have hset : ∀ c g, (∀ x, (g x).core = x.core) →
      Keeps F (call out c >>= fun _ => updateGameServer r g) := fun _ _ hg =>
    Keeps.bind h (Keeps.call h _ _) fun _ => hF.updateGameServer _ hg
  cases m <;> simp only [Message.isLauncher, reduceCtorEq] at hm <;>
    simp only [Message.peer?, Option.some.injEq, Peer.gameServer.injEq] at hp <;> subst hp
  all_goals simp only [handleMessage, handleAddressInfoMessage, handleServerInfoMessage,
    handleMatchTimeMessage, handleServerReadyMessage, setAddressInfo, setInfo, setMatchTime,
    setReady]
  case launcherProtocolVersion =>
    exact Keeps.of_recorded h (keeps_handleLauncherProtocolVersionMessage _ _ _ _)
  case launcherAddressInfo =>
    exact Keeps.bind h (Keeps.liftExcept h _) fun _ =>
      Keeps.bind h (Keeps.liftExcept h _) fun _ => hset _ _ fun _ => rfl
  case launcherServerInfo passwordHash =>
    cases passwordHash
    · exact Keeps.bind h (Keeps.pure h _) fun _ => hset _ _ fun _ => rfl
    · exact Keeps.bind h (Keeps.map _ (Keeps.liftExcept h _)) fun _ => hset _ _ fun _ => rfl
  case launcherMapInfo => exact hF.updateGameServer _ fun _ => rfl
  case launcherTeamInfo => exact Keeps.forM h fun _ => keeps_setTeamOf hF _ _
  case launcherScoreInfo =>
    exact Keeps.bind h (hF.updateGameServer _ fun _ => rfl) fun _ =>
      hF.updateGameServer _ fun _ => rfl
  case launcherMatchTime | launcherServerReady => exact hset _ _ fun _ => rfl
  case launcherMatchEnd => exact Keeps.pure h _

end Launcher

/-- The launcher events keep every launcher frame: they change no registry, no id and no field
of a player but its team. -/
theorem keeps_launcher {F : LoginServer → LoginServer → Prop} (hF : LauncherFrame F)
    (out : Outside) (m : Message) (cfg : Config) (hm : m.isLauncher = true) :
    Keeps F (handleMessage cfg out m) :=
  let ⟨r, hp⟩ := Message.isLauncher_peer? hm
  keeps_launcherAt (hF.at r) out m cfg hm hp

/-! ### A player's connect and disconnect, for every frame -/

section PlayerLife

variable {F : LoginServer → LoginServer → Prop} (hF : IsFrame F) (out : Outside) (r : Nat)
include hF

/-- A player's connect keeps every frame that its changes of the player and its store in the
registry keep. -/
theorem keeps_connectPlayer
    (hid : ∀ k, Keeps F (updatePlayer r fun p => { p with uniqueId := some k }))
    (hst : Keeps F (updatePlayer r fun p => { p with state := some .unauthenticated }))
    (hstore : ∀ s k, F s { s with players := s.players.setItem k r }) :
    Keeps F (handleClientConnectedMessage out (.player r)) :=
  Keeps.bind hF (Keeps.get hF) fun _ => Keeps.bind hF (Keeps.call hF _ _) fun _ =>
    Keeps.bind hF (hid _) fun _ => Keeps.bind hF (Keeps.call hF _ _) fun _ =>
      Keeps.bind hF (Keeps.setState hF _ _ _ hst) fun _ => keeps_modify fun s => hstore s _

/-- A player's disconnect keeps every frame that its change of the player's state and every change
of the player registry keep. -/
theorem keeps_disconnectPlayer
    (hst : Keeps F (updatePlayer r fun p => { p with state := some .offline }))
    (hdel : ∀ s (players : Dict Int Nat), F s { s with players }) :
    Keeps F (handleClientDisconnectedMessage out (.player r)) :=
  Keeps.bind hF (Keeps.call hF _ _) fun _ => Keeps.bind hF (Keeps.call hF _ _) fun _ =>
    Keeps.bind hF (Keeps.setState hF _ _ _ hst) fun _ => keeps_get_bind fun s => by
      cases delItem s.players (s.player r).uniqueId
      · exact hF.refl s
      · exact hdel s _

end PlayerLife

/-! ### The player handlers, for every frame of the players' side -/

/-- A frame that every change of a player record and of the player registry keeps. -/
structure PlayerFrame (F : LoginServer → LoginServer → Prop) extends IsFrame F : Prop where
  updatePlayer : ∀ r f, Keeps F (updatePlayer r f)
  players : ∀ s (players : Dict Int Nat), F s { s with players }

/-- A frame that the changes of player `r` that keep its unique id keep, and the re-key of the
player the registry holds under `r`'s unique id. -/
structure LoginFrame (r : Nat) (F : LoginServer → LoginServer → Prop) extends IsFrame F : Prop where
  updatePlayer : ∀ s f, (f (s.player r)).uniqueId = (s.player r).uniqueId → F s (s.updatePlayer r f)
  rekey : ∀ s oldKey newId r', (s.player r).uniqueId = some oldKey →
    s.players.get? oldKey = some r' → F s (s.rekey oldKey newId r')

section LoginFrame

variable {F : LoginServer → LoginServer → Prop} {r : Nat} (hF : LoginFrame r F) (cfg : Config)
  (out : Outside)
include hF

theorem LoginFrame.keeps_updatePlayer {f : Player → Player} (hf : ∀ p, (f p).uniqueId = p.uniqueId) :
    Keeps F (Taserver.updatePlayer r f) :=
  fun s => hF.updatePlayer s f (hf _)

/-- The end of a login keeps every frame of the login, whatever the world answers. -/
theorem LoginFrame.keeps_acceptLogin (name : String) : Keeps F (acceptLogin cfg out r name) :=
  fun s => by
  rcases acceptLogin_cases (rfl : acceptLogin cfg out r name s = _) with
    ⟨-, h⟩ | ⟨_, -, ⟨_, _, -, h⟩ | h⟩ <;> rw [h]
  · exact hF.refl s
  all_goals
    refine hF.trans (hF.updatePlayer s _ ?_) (hF.record _ _)
    rfl

/-- A login request keeps every frame of the login, whatever the world answers. -/
theorem LoginFrame.keeps_handleLoginRequest (loginName : Option String)
    (passwordHash : Option (List UInt8)) :
    Keeps F (handleLoginRequest cfg out r loginName passwordHash) := fun s => by
  rcases passwordHash with _ | hash
  · exact Keeps.call hF.toIsFrame _ _ s
  rcases loginName with _ | name
  · exact hF.refl s
  have h₁ : F s (s.updatePlayer r (credentials name hash)) := hF.updatePlayer s _ rfl
  rcases hv : validateUsername cfg.rules name with _ | reason
  · rw [handleLoginRequest_valid hv, Handler.bind_apply]
    rcases checkAccount_cases (rfl : checkAccount cfg r name hash
        (s.updatePlayer r (credentials name hash)) = _) with
      hc | ⟨_, hc, -⟩ | ⟨_, _, _, -, -, -, hold, hget, hc⟩ <;> simp only [hc]
    · exact hF.trans h₁ (hF.keeps_acceptLogin cfg out name _)
    · exact h₁
    · refine hF.trans h₁ (hF.trans (hF.trans (hF.rekey _ _ _ _ hold hget)
        (hF.updatePlayer _ _ ?_)) (hF.keeps_acceptLogin cfg out name _))
      rfl
  · rw [handleLoginRequest_invalid hv]
    exact hF.trans h₁ (Keeps.of_recorded hF.toIsFrame (keeps_rejectLogin out r name) _)

theorem LoginFrame.keeps_handleRequest (request : Request) :
    Keeps F (handleRequest cfg out r request) := by
  have h := hF.toIsFrame
  refine keeps_get_bind fun s => ?_
  rcases (s.player r).state with _ | _ | _ | _
  · exact Keeps.throw h _ s
  · cases request
    · exact Keeps.of_recorded h (keeps_handleA01bc _ _) s
    · exact Keeps.call h _ _ s
    · exact hF.keeps_handleLoginRequest cfg out _ _ s
    · exact Keeps.throw h _ s
  · exact Keeps.call h _ _ s
  · exact Keeps.throw h _ s

/-- A player's login-protocol data keeps every frame of its login, whatever the world answers. -/
theorem LoginFrame.keeps_handleClientMessage (clientSeq : Nat) (requests : List Request) :
    Keeps F (handleClientMessage cfg out r clientSeq requests) :=
  Keeps.bind hF.toIsFrame (hF.keeps_updatePlayer fun _ => rfl) fun _ =>
    Keeps.forM hF.toIsFrame fun _ => hF.keeps_handleRequest cfg out _

end LoginFrame

theorem PlayerFrame.of_rekey {F : LoginServer → LoginServer → Prop} (hF : PlayerFrame F)
    (s : LoginServer) (oldKey newId : Int) (r : Nat) : F s (s.rekey oldKey newId r) :=
  have h : F s (s.updatePlayer r fun p => { p with uniqueId := some newId }) :=
    hF.updatePlayer r (fun p => { p with uniqueId := some newId }) s
  hF.trans h (hF.players _ _)

theorem PlayerFrame.toLoginFrame {F : LoginServer → LoginServer → Prop} (hF : PlayerFrame F)
    (r : Nat) : LoginFrame r F where
  toIsFrame := hF.toIsFrame
  updatePlayer s f _ := hF.updatePlayer r f s
  rekey s _ _ _ _ _ := hF.of_rekey s _ _ _

/-! ### The player handlers keep the fleet, the game-server handlers the roster -/

section Lifecycle

variable (cfg : Config) (out : Outside) (r : Nat)

theorem keeps_fleet_updatePlayer (f : Player → Player) : Keeps ServersFrame (updatePlayer r f) :=
  fun _ => rfl

theorem keeps_fleet_changePlayerUniqueId (oldId : Option Int) (newId : Int) :
    Keeps ServersFrame (changePlayerUniqueId oldId newId) := fun s => by
  rcases changePlayerUniqueId_cases (rfl : changePlayerUniqueId oldId newId s = _) with
    ⟨-, h⟩ | ⟨-, -, h⟩ | ⟨_, _, -, -, -, h⟩ <;> rw [h] <;> rfl

theorem keeps_fleet_checkAccount (name : String) (hash : List UInt8) :
    Keeps ServersFrame (checkAccount cfg r name hash) := fun s => by
  rcases checkAccount_cases (rfl : checkAccount cfg r name hash s = _) with
    h | ⟨_, h, -⟩ | ⟨_, _, _, -, -, -, -, -, h⟩ <;> rw [h] <;> rfl

theorem keeps_fleet_acceptLogin (name : String) : Keeps ServersFrame (acceptLogin cfg out r name) :=
  fun s => by
  rcases acceptLogin_cases (rfl : acceptLogin cfg out r name s = _) with
    ⟨-, h⟩ | ⟨_, -, ⟨_, _, -, h⟩ | h⟩ <;> rw [h] <;> rfl

theorem keeps_fleet_handleLoginRequest (loginName : Option String)
    (passwordHash : Option (List UInt8)) :
    Keeps ServersFrame (handleLoginRequest cfg out r loginName passwordHash) := by
  have h := isFrame_serversFrame
  unfold handleLoginRequest
  split
  · exact Keeps.call h _ _
  · split
    · refine Keeps.bind h (keeps_fleet_updatePlayer _ _) fun _ =>
        Keeps.bind h (keeps_fleet_updatePlayer _ _) fun _ => ?_
      split
      · exact Keeps.of_recorded h (keeps_rejectLogin _ _ _)
      · exact Keeps.bind h (keeps_fleet_checkAccount _ _ _ _) fun _ => keeps_fleet_acceptLogin _ _ _ _
    · exact Keeps.throw h _

theorem keeps_fleet_handleRequest (request : Request) :
    Keeps ServersFrame (handleRequest cfg out r request) := by
  have h := isFrame_serversFrame
  refine Keeps.bind h (Keeps.get h) fun _ => ?_
  split
  · exact Keeps.of_recorded h (keeps_handleA01bc _ _)
  · exact Keeps.call h _ _
  · exact keeps_fleet_handleLoginRequest _ _ _ _ _
  all_goals first | exact Keeps.throw h _ | exact Keeps.call h _ _

theorem keeps_fleet_handleClientMessage (clientSeq : Nat) (requests : List Request) :
    Keeps ServersFrame (handleClientMessage cfg out r clientSeq requests) :=
  Keeps.bind isFrame_serversFrame (keeps_fleet_updatePlayer _ _) fun _ =>
    Keeps.forM isFrame_serversFrame fun _ => keeps_fleet_handleRequest _ _ _ _

theorem keeps_fleet_connectPlayer : Keeps ServersFrame (handleClientConnectedMessage out (.player r)) := by
  have h := isFrame_serversFrame
  refine Keeps.bind h (Keeps.get h) fun _ => ?_
  exact Keeps.bind h (Keeps.call h _ _) fun _ => Keeps.bind h (keeps_fleet_updatePlayer _ _)
    fun _ => Keeps.bind h (Keeps.call h _ _) fun _ =>
      Keeps.bind h (Keeps.setState h _ _ _ (keeps_fleet_updatePlayer _ _)) fun _ =>
        keeps_modify fun _ => rfl

theorem keeps_fleet_disconnectPlayer :
    Keeps ServersFrame (handleClientDisconnectedMessage out (.player r)) := by
  have h := isFrame_serversFrame
  refine Keeps.bind h (Keeps.call h _ _) fun _ => Keeps.bind h (Keeps.call h _ _) fun _ =>
    Keeps.bind h (Keeps.setState h _ _ _ (keeps_fleet_updatePlayer _ _)) fun _ =>
      keeps_get_bind fun s => ?_
  cases delItem s.players (s.player r).uniqueId <;> rfl

theorem keeps_roster_connectGameServer :
    Keeps PlayersFrame (handleClientConnectedMessage out (.gameServer r)) := by
  have h := isFrame_playersFrame
  refine Keeps.bind h (Keeps.get h) fun _ => ?_
  exact Keeps.bind h (fun _ => rfl) fun _ => Keeps.bind h (fun _ => rfl) fun _ =>
    Keeps.bind h (fun _ => rfl) fun _ => keeps_modify fun _ => rfl

theorem keeps_roster_disconnectGameServer :
    Keeps PlayersFrame (handleClientDisconnectedMessage out (.gameServer r)) := by
  have h := isFrame_playersFrame
  refine Keeps.bind h (Keeps.call h _ _) fun _ => Keeps.bind h (Keeps.call h _ _) fun _ =>
    keeps_get_bind fun s => ?_
  cases delItem s.gameServers (s.gameServer r).serverId <;> rfl

end Lifecycle

/-! ### Messages -/

/-- The messages of a player's life: its connect, its disconnect and its login-protocol data. -/
def Message.touchesPlayers : Message → Bool
  | .peerConnected (.player _) | .peerDisconnected (.player _) | .loginProtocol .. => true
  | _ => false

/-- The connect and the disconnect of a game server. -/
def Message.touchesServers : Message → Bool
  | .peerConnected (.gameServer _) | .peerDisconnected (.gameServer _) => true
  | _ => false

/-- Every message but those of a player's life keeps the roster, whatever the world does. -/
theorem keeps_roster (cfg : Config) (out : Outside) (m : Message) (hm : m.touchesPlayers = false) :
    Keeps PlayersFrame (handleMessage cfg out m) := by
  have h := isFrame_playersFrame
  cases m with
  | authCodeRequest p name => exact Keeps.of_recorded h (keeps_handleAuthcodeRequestMessage cfg out p name)
  | executeCallback => exact Keeps.call h _ _
  | httpRequest p path => exact Keeps.of_recorded h (keeps_handleHttpRequestMessage out p path)
  | peerConnected p =>
    cases p
    · simp [Message.touchesPlayers] at hm
    · exact keeps_roster_connectGameServer out _
    · exact Keeps.pure h _
    · exact Keeps.throw h _
  | peerDisconnected p =>
    cases p
    · simp [Message.touchesPlayers] at hm
    · exact keeps_roster_disconnectGameServer out _
    · exact Keeps.call h _ _
    · exact Keeps.throw h _
  | loginProtocol => simp [Message.touchesPlayers] at hm
  | _ => exact keeps_launcher objectFrame_playersFrame.toLauncherFrame out _ cfg rfl

/-- Every message but the connect and disconnect of a game server keeps the fleet, whatever the
world does. -/
theorem keeps_fleet (cfg : Config) (out : Outside) (m : Message) (hm : m.touchesServers = false) :
    Keeps ServersFrame (handleMessage cfg out m) := by
  have h := isFrame_serversFrame
  cases m with
  | authCodeRequest p name => exact Keeps.of_recorded h (keeps_handleAuthcodeRequestMessage cfg out p name)
  | executeCallback => exact Keeps.call h _ _
  | httpRequest p path => exact Keeps.of_recorded h (keeps_handleHttpRequestMessage out p path)
  | peerConnected p =>
    cases p
    · exact keeps_fleet_connectPlayer out _
    · simp [Message.touchesServers] at hm
    · exact Keeps.pure h _
    · exact Keeps.throw h _
  | peerDisconnected p =>
    cases p
    · exact keeps_fleet_disconnectPlayer out _
    · simp [Message.touchesServers] at hm
    · exact Keeps.call h _ _
    · exact Keeps.throw h _
  | loginProtocol => exact keeps_fleet_handleClientMessage cfg out _ _ _
  | _ => exact keeps_launcher objectFrame_serversFrame.toLauncherFrame out _ cfg rfl

/-! ### Whole runs -/

/-- A frame that the handler of every message of a queue keeps, whatever the world answers, holds
between the state the dispatch loop starts in and the state it ends in, however it ends. -/
theorem Keeps.run {F : LoginServer → LoginServer → Prop} (hF : IsFrame F) {cfg : Config}
    {queue : List (Message × Outside)} (h : ∀ d ∈ queue, Keeps F (handleMessage cfg d.2 d.1))
    (s : LoginServer) : F s (LoginServer.run cfg s queue).2.state := by
  induction queue generalizing s with
  | nil => exact hF.refl s
  | cons d queue ih =>
    have hd := h d (List.mem_cons_self _ _) s
    rcases LoginServer.run_cons_cases cfg s d.1 d.2 with hs | ⟨e, -, hs⟩ <;> rw [hs]
    · exact hF.trans hd (ih (fun d' hd' => h d' (List.mem_cons_of_mem _ hd')) _)
    · exact hd

/-- Every message of a player's life keeps every frame of the players' side, whatever the world
answers. -/
theorem PlayerFrame.keeps_handleMessage {F : LoginServer → LoginServer → Prop} (hF : PlayerFrame F)
    (cfg : Config) (out : Outside) {m : Message} (hm : m.touchesPlayers = true) :
    Keeps F (handleMessage cfg out m) := by
  have h := hF.toIsFrame
  cases m with
  | peerConnected p =>
    cases p <;> simp only [Message.touchesPlayers, reduceCtorEq] at hm
    exact keeps_connectPlayer h out _ (fun _ => hF.updatePlayer _ _) (hF.updatePlayer _ _)
      fun s _ => hF.players s _
  | peerDisconnected p =>
    cases p <;> simp only [Message.touchesPlayers, reduceCtorEq] at hm
    exact keeps_disconnectPlayer h out _ (hF.updatePlayer _ _) hF.players
  | loginProtocol => exact (hF.toLoginFrame _).keeps_handleClientMessage cfg out _ _
  | _ => simp [Message.touchesPlayers] at hm

end Taserver
