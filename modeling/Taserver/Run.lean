import Taserver.Handlers
import Taserver.Launcher

/-! The dispatch loop `LoginServer.run` and its table `message_handlers`. The loop takes the
messages of the queue in order and calls the handler of each; an exception of a handler is caught,
and for a message with a peer the peer is disconnected with it and the loop goes on, while for a
message without one the exception leaves the loop. The disconnect is itself a call to the world,
and an exception it raises leaves the loop too. Over a finite queue the loop is `runQueue`, which
returns the calls it made and how it ended. `Isolated` states the crash-isolation policy of spec
4.1 message by message, and `runQueue_isolated` shows the loop follows it for every handler table,
every behaviour of the disconnects and every queue. -/

namespace Taserver

/-- `message_handlers[type(message)](message)`, with the world's answers `out`. -/
def handleMessage (cfg : Config) (out : Outside) : Message → Handler Unit
  | .authCodeRequest p loginName => handleAuthcodeRequestMessage cfg out p loginName
  | .executeCallback callbackId => handleExecuteCallbackMessage out callbackId
  | .httpRequest p path => handleHttpRequestMessage out p path
  | .peerConnected p => handleClientConnectedMessage out p
  | .peerDisconnected p => handleClientDisconnectedMessage out p
  | .loginProtocol p clientSeq requests => handleClientMessage cfg out p clientSeq requests
  | .launcherProtocolVersion p version => handleLauncherProtocolVersionMessage cfg out p version
  | .launcherAddressInfo p externalIp internalIp => handleAddressInfoMessage out p externalIp internalIp
  | .launcherServerInfo p description motd mode passwordHash =>
    handleServerInfoMessage out p description motd mode passwordHash
  | .launcherMapInfo p mapId => handleMapInfoMessage p mapId
  | .launcherTeamInfo p playerToTeamId => handleTeamInfoMessage p playerToTeamId
  | .launcherScoreInfo p beScore dsScore => handleScoreInfoMessage p beScore dsScore
  | .launcherMatchTime p secondsRemaining counting =>
    handleMatchTimeMessage out p secondsRemaining counting
  | .launcherServerReady p port => handleServerReadyMessage out p port
  | .launcherMatchEnd _ => handleMatchEndMessage

/-- The launcher events, which the handlers of a game server's messages handle. -/
def Message.isLauncher : Message → Bool
  | .launcherProtocolVersion .. | .launcherAddressInfo .. | .launcherServerInfo ..
  | .launcherMapInfo .. | .launcherTeamInfo .. | .launcherScoreInfo .. | .launcherMatchTime ..
  | .launcherServerReady .. | .launcherMatchEnd .. => true
  | _ => false

/-- A call the loop makes: the handler of a message, or `message.peer.disconnect(e)`. -/
inductive LoopCall (α : Type)
  | handler (m : α)
  | disconnect (p : Peer) (e : Error)
  deriving DecidableEq, Repr

/-- The message of a handler call. -/
def LoopCall.handled? {α : Type} : LoopCall α → Option α
  | .handler m => some m
  | .disconnect _ _ => none

/-- How the loop leaves a finite queue: waiting for the next message, or with an exception that
propagated out of it. -/
inductive RunEnd (σ : Type)
  | waiting (s : σ)
  | raised (e : Error) (s : σ)

/-- The state a run ends in. -/
def RunEnd.state {σ : Type} : RunEnd σ → σ
  | .waiting s => s
  | .raised _ s => s

section Loop

variable {α σ : Type} (peerOf : α → Option Peer) (handle : α → EStateM Error σ Unit)
  (disconnect : α → Peer → Error → Option Error)

/-- `LoginServer.run` over a finite queue, for the handler `handle m` of each message `m`, its peer
`peerOf m` (`hasattr(message, 'peer')`), and the exception `disconnect m p e` that
`message.peer.disconnect(e)` raises, if any: the calls it makes, and how it ends. -/
def runQueue (s : σ) : List α → List (LoopCall α) × RunEnd σ
  | [] => ([], .waiting s)
  | m :: queue =>
    match handle m s with
    | .ok () s' =>
      let (calls, e) := runQueue s' queue
      (.handler m :: calls, e)
    | .error e s' =>
      match peerOf m with
      | some p =>
        match disconnect m p e with
        | none =>
          let (calls, e') := runQueue s' queue
          (.handler m :: .disconnect p e :: calls, e')
        | some e' => ([.handler m, .disconnect p e], .raised e' s')
      | none => ([.handler m], .raised e s')

section Steps

variable {s s' : σ} {m : α} {queue : List α} {e : Error} {p : Peer}

theorem runQueue_ok (h : handle m s = .ok () s') :
    (runQueue peerOf handle disconnect s (m :: queue)).2 =
      (runQueue peerOf handle disconnect s' queue).2 := by
  simp only [runQueue, h]

theorem runQueue_disconnected (h : handle m s = .error e s') (hp : peerOf m = some p)
    (hd : disconnect m p e = none) :
    (runQueue peerOf handle disconnect s (m :: queue)).2 =
      (runQueue peerOf handle disconnect s' queue).2 := by
  simp only [runQueue, h, hp, hd]

theorem runQueue_disconnectRaised {e' : Error} (h : handle m s = .error e s')
    (hp : peerOf m = some p) (hd : disconnect m p e = some e') :
    (runQueue peerOf handle disconnect s (m :: queue)).2 = .raised e' s' := by
  simp only [runQueue, h, hp, hd]

theorem runQueue_propagated (h : handle m s = .error e s') (hp : peerOf m = none) :
    (runQueue peerOf handle disconnect s (m :: queue)).2 = .raised e s' := by
  simp only [runQueue, h, hp]

end Steps

/-- The first message of a queue either hands the loop on to the rest of the queue in the state its
handler left, or ends the run with an exception in that state. -/
theorem runQueue_cons_cases (s : σ) (m : α) :
    (∃ s₁, ∀ queue, (runQueue peerOf handle disconnect s (m :: queue)).2 =
      (runQueue peerOf handle disconnect s₁ queue).2) ∨
    ∃ e s₁, ∀ queue, (runQueue peerOf handle disconnect s (m :: queue)).2 = .raised e s₁ := by
  rcases hm : handle m s with ⟨⟨⟩, s'⟩ | ⟨e, s'⟩
  · exact .inl ⟨s', fun _ => runQueue_ok peerOf handle disconnect hm⟩
  rcases hp : peerOf m with _ | p
  · exact .inr ⟨e, s', fun _ => runQueue_propagated peerOf handle disconnect hm hp⟩
  rcases hd : disconnect m p e with _ | e'
  · exact .inl ⟨s', fun _ => runQueue_disconnected peerOf handle disconnect hm hp hd⟩
  · exact .inr ⟨e', s', fun _ => runQueue_disconnectRaised peerOf handle disconnect hm hp hd⟩

/-- A queue whose run ends waiting leaves the rest of a longer queue to the state it ended in. -/
theorem runQueue_append {s s₁ : σ} {pre : List α}
    (h : (runQueue peerOf handle disconnect s pre).2 = .waiting s₁) (rest : List α) :
    (runQueue peerOf handle disconnect s (pre ++ rest)).2 =
      (runQueue peerOf handle disconnect s₁ rest).2 := by
  induction pre generalizing s with
  | nil =>
    simp only [runQueue, RunEnd.waiting.injEq] at h
    rw [h, List.nil_append]
  | cons m pre ih =>
    rw [List.cons_append]
    rcases runQueue_cons_cases peerOf handle disconnect s m with ⟨s', hs'⟩ | ⟨e, s', hs'⟩
    · rw [hs'] at h ⊢
      exact ih h
    · rw [hs'] at h
      cases h

/-- The crash-isolation policy of spec 4.1, message by message: the next message is handled after a
handler returns, or raises for a message whose peer is then disconnected once with the exception; an
exception without a peer, or from that disconnect, ends the run. -/
inductive Isolated : σ → List α → List (LoopCall α) → RunEnd σ → Prop
  | drained {s : σ} : Isolated s [] [] (.waiting s)
  | returned {s s' : σ} {m : α} {queue : List α} {calls : List (LoopCall α)} {e : RunEnd σ} :
      handle m s = .ok () s' → Isolated s' queue calls e →
      Isolated s (m :: queue) (.handler m :: calls) e
  | disconnected {s s' : σ} {m : α} {queue : List α} {calls : List (LoopCall α)} {e : RunEnd σ}
      {p : Peer} {ex : Error} :
      handle m s = .error ex s' → peerOf m = some p → disconnect m p ex = none →
      Isolated s' queue calls e →
      Isolated s (m :: queue) (.handler m :: .disconnect p ex :: calls) e
  | disconnectRaised {s s' : σ} {m : α} {queue : List α} {p : Peer} {ex ex' : Error} :
      handle m s = .error ex s' → peerOf m = some p → disconnect m p ex = some ex' →
      Isolated s (m :: queue) [.handler m, .disconnect p ex] (.raised ex' s')
  | propagated {s s' : σ} {m : α} {queue : List α} {ex : Error} :
      handle m s = .error ex s' → peerOf m = none →
      Isolated s (m :: queue) [.handler m] (.raised ex s')

/-- A run that follows the policy calls the handlers of a prefix of the queue, in order and each
once, and of the whole queue when it ends waiting. -/
theorem Isolated.handled {s : σ} {queue : List α} {calls : List (LoopCall α)} {e : RunEnd σ}
    (h : Isolated peerOf handle disconnect s queue calls e) :
    calls.filterMap LoopCall.handled? <+: queue ∧
      ∀ s', e = .waiting s' → calls.filterMap LoopCall.handled? = queue := by
  induction h with
  | drained => exact ⟨List.prefix_refl _, fun _ _ => rfl⟩
  | returned _ _ ih | disconnected _ _ _ _ ih =>
    simp only [List.filterMap_cons, LoopCall.handled?]
    exact ⟨List.prefix_cons_inj _ |>.2 ih.1, fun s' he => by rw [ih.2 s' he]⟩
  | disconnectRaised | propagated =>
    simp only [List.filterMap_cons, LoopCall.handled?, List.filterMap_nil]
    exact ⟨List.prefix_cons_inj _ |>.2 (List.nil_prefix), fun _ he => by cases he⟩

/-- The run of every queue follows the policy. -/
theorem isolated_runQueue (s : σ) (queue : List α) :
    Isolated peerOf handle disconnect s queue (runQueue peerOf handle disconnect s queue).1
      (runQueue peerOf handle disconnect s queue).2 := by
  induction queue generalizing s with
  | nil => exact .drained
  | cons m queue ih =>
    rcases hm : handle m s with ⟨⟨⟩, s'⟩ | ⟨ex, s'⟩
    · simpa [runQueue, hm] using Isolated.returned hm (ih s')
    rcases hp : peerOf m with _ | p
    · simpa [runQueue, hm, hp] using
        (Isolated.propagated hm hp : Isolated peerOf handle disconnect s (m :: queue) _ _)
    rcases hd : disconnect m p ex with _ | ex'
    · simpa [runQueue, hm, hp, hd] using Isolated.disconnected hm hp hd (ih s')
    · simpa [runQueue, hm, hp, hd] using
        (Isolated.disconnectRaised hm hp hd : Isolated peerOf handle disconnect s (m :: queue) _ _)

end Loop

/-- `message.peer.disconnect(e)` in `LoginServer.run`, with the world's answers `out` for the
message: the exception it raises, if any. -/
def loopDisconnect (out : Outside) (p : Peer) : Option Error :=
  if out.raises (.disconnectWith p) then some (.external (.disconnectWith p)) else none

/-- `LoginServer.run` over a finite queue of messages, each with the world's answers while it is
handled. -/
def LoginServer.run (cfg : Config) (s : LoginServer) (queue : List (Message × Outside)) :
    List (LoopCall (Message × Outside)) × RunEnd LoginServer :=
  runQueue (fun d => d.1.peer?) (fun d => handleMessage cfg d.2 d.1) (fun d p _ => loopDisconnect d.2 p)
    s queue

/-- `LoginServer.run` follows the crash-isolation policy for every configuration and queue,
whatever the world answers. -/
theorem LoginServer.run_isolated (cfg : Config) (s : LoginServer) (queue : List (Message × Outside)) :
    Isolated (fun d => d.1.peer?) (fun d => handleMessage cfg d.2 d.1)
        (fun d p _ => loopDisconnect d.2 p) s queue (LoginServer.run cfg s queue).1
        (LoginServer.run cfg s queue).2 ∧
      (LoginServer.run cfg s queue).1.filterMap LoopCall.handled? <+: queue ∧
      ∀ s', (LoginServer.run cfg s queue).2 = .waiting s' →
        (LoginServer.run cfg s queue).1.filterMap LoopCall.handled? = queue :=
  have h := isolated_runQueue _ _ _ s queue
  ⟨h, h.handled⟩

/-- Only `ExecuteCallback` has no peer. -/
theorem Message.peer?_eq_none {m : Message} : m.peer? = none ↔ ∃ callbackId, m = .executeCallback callbackId := by
  cases m <;> simp [Message.peer?]

/-- Message `m`, handled from state `s` with the world's answers `out`, raises `e` out of the loop
in state `s'`: its callback raised, or its handler raised and then its peer's `disconnect(e)`. -/
def RaisesOut (cfg : Config) (s : LoginServer) (m : Message) (out : Outside) (e : Error)
    (s' : LoginServer) : Prop :=
  (∃ callbackId, m = .executeCallback callbackId ∧ out.raises (.execute callbackId) = true ∧
      e = .external (.execute callbackId) ∧ s' = s) ∨
    ∃ p ex, m.peer? = some p ∧ handleMessage cfg out m s = .error ex s' ∧
      out.raises (.disconnectWith p) = true ∧ e = .external (.disconnectWith p)

section Run

variable {cfg : Config} {s s' : LoginServer} {m : Message} {out : Outside}
  {queue : List (Message × Outside)}

theorem LoginServer.run_append {s₁ : LoginServer} {pre : List (Message × Outside)}
    (h : (LoginServer.run cfg s pre).2 = .waiting s₁) (rest : List (Message × Outside)) :
    (LoginServer.run cfg s (pre ++ rest)).2 = (LoginServer.run cfg s₁ rest).2 :=
  runQueue_append _ _ _ h rest

/-- A message that raises out of the loop ends the run there. -/
theorem RaisesOut.run {e : Error} (h : RaisesOut cfg s m out e s') (queue : List (Message × Outside)) :
    (LoginServer.run cfg s ((m, out) :: queue)).2 = .raised e s' := by
  rcases h with ⟨callbackId, rfl, hr, rfl, rfl⟩ | ⟨p, ex, hp, hm, hr, rfl⟩
  · exact runQueue_propagated _ _ _ (by simp [handleMessage, handleExecuteCallbackMessage, hr]) rfl
  · exact runQueue_disconnectRaised _ _ _ hm hp (by simp [loopDisconnect, hr])

/-- The first message of a queue either hands the loop on to the rest of the queue in the state
its handler left, or raises out of the loop in that state. -/
theorem LoginServer.run_cons_cases (cfg : Config) (s : LoginServer) (m : Message) (out : Outside) :
    (∀ queue, (LoginServer.run cfg s ((m, out) :: queue)).2 =
      (LoginServer.run cfg (resultState (handleMessage cfg out m s)) queue).2) ∨
    ∃ e, RaisesOut cfg s m out e (resultState (handleMessage cfg out m s)) ∧
      ∀ queue, (LoginServer.run cfg s ((m, out) :: queue)).2 =
        .raised e (resultState (handleMessage cfg out m s)) := by
  rcases hm : handleMessage cfg out m s with ⟨⟨⟩, s₁⟩ | ⟨e, s₁⟩
  · exact .inl fun _ => runQueue_ok _ _ _ hm
  simp only [resultState_error]
  rcases hp : m.peer? with _ | p
  · obtain ⟨callbackId, rfl⟩ := Message.peer?_eq_none.1 hp
    have hs : handleExecuteCallbackMessage out callbackId s = .error e s₁ := hm
    simp only [handleExecuteCallbackMessage, call_apply] at hs
    split at hs <;> simp only [EStateM.Result.error.injEq, reduceCtorEq] at hs
    obtain ⟨rfl, rfl⟩ := hs
    have hr : RaisesOut cfg s (.executeCallback callbackId) out (.external (.execute callbackId)) s :=
      .inl ⟨callbackId, rfl, by assumption, rfl, rfl⟩
    exact .inr ⟨_, hr, hr.run⟩
  by_cases hd : out.raises (.disconnectWith p)
  · have hr : RaisesOut cfg s m out (.external (.disconnectWith p)) s₁ := .inr ⟨p, e, hp, hm, hd, rfl⟩
    exact .inr ⟨_, hr, hr.run⟩
  · exact .inl fun _ => runQueue_disconnected _ _ _ hm hp (by simp [loopDisconnect, hd])

end Run

/-- When every external call returns, the dispatch loop handles every message of every queue, from
every state, and waits for the next: the core's own exceptions, such as `AlreadyLoggedInError`,
`KeyError` or a failed assertion, are all raised for messages with a peer and isolated. -/
theorem run_normal_handles_all (cfg : Config) (s : LoginServer) (queue : List Message) :
    let run := LoginServer.run cfg s (queue.map fun m => (m, .normal))
    (∃ s', run.2 = .waiting s') ∧ run.1.filterMap LoopCall.handled? = queue.map fun m => (m, .normal) := by
  have hw : ∃ s', (LoginServer.run cfg s (queue.map fun m => (m, .normal))).2 = .waiting s' := by
    induction queue generalizing s with
    | nil => exact ⟨s, rfl⟩
    | cons m queue ih =>
      rcases LoginServer.run_cons_cases cfg s m .normal with hs | ⟨e, hr, -⟩
      · rw [List.map_cons, hs]
        exact ih _
      · rcases hr with ⟨_, -, hc, -⟩ | ⟨_, _, -, -, hc, -⟩ <;> cases hc
  obtain ⟨s', hs'⟩ := hw
  exact ⟨⟨s', hs'⟩, (LoginServer.run_isolated cfg s _).2.2 s' hs'⟩

end Taserver
