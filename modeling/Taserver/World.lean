import Taserver.Lifecycle

/-! The runs of the login server. A run handles one message after another, each in a world that
answers the external calls; the transport connects each peer once, passes a player's
login-protocol data only while it is connected, and disconnects a peer at most once. `World` is
the login server with the transport's phase of every peer, and `Reachable cfg admits` holds of the
worlds that runs reach from the initial one when the answers of every step are admitted by
`admits`. `Reachable.run` shows that the dispatch loop `LoginServer.run` ends in such a world. A run
that the loop left by an exception takes no more messages, while `Reachable` lets messages come
after any world: it holds of more worlds than runs reach, which only makes its invariants
stronger. -/

namespace Taserver

/-- Where the transport is with a peer. -/
inductive Phase
  | fresh
  | connected
  | gone
  deriving DecidableEq, Repr

/-- The login server and the phase of every peer. -/
structure World where
  server : LoginServer
  phase : Peer → Phase

/-- No peer has connected. -/
def World.initial : World := ⟨.initial, fun _ => .fresh⟩

/-- The phase of every peer after message `m`. -/
def Message.nextPhase (m : Message) (phase : Peer → Phase) : Peer → Phase :=
  match m with
  | .peerConnected p => Function.update phase p .connected
  | .peerDisconnected p => Function.update phase p .gone
  | _ => phase

/-- The transport's order: a peer connects once, a player sends login-protocol data only while it
is connected, and a peer disconnects at most once. -/
def Message.admissible (phase : Peer → Phase) : Message → Bool
  | .peerConnected p => phase p == .fresh
  | .peerDisconnected p => phase p == .connected
  | .loginProtocol r _ _ => phase (.player r) == .connected
  | _ => true

/-- The world after message `m` was handled with the world's answers `out`, whether the handler
returned or raised. -/
def World.next (cfg : Config) (out : Outside) (w : World) (m : Message) : World :=
  ⟨resultState (handleMessage cfg out m w.server), m.nextPhase w.phase⟩

/-- The worlds reached from the initial one by messages in the transport's order, the answers of
each step admitted by `admits`. -/
inductive Reachable (cfg : Config) (admits : Message → Outside → Prop) : World → Prop
  | initial : Reachable cfg admits World.initial
  | step {w : World} {m : Message} {out : Outside} :
      Reachable cfg admits w → m.admissible w.phase = true → admits m out →
      Reachable cfg admits (w.next cfg out m)

/-- The runs in which every external call returns. -/
def normalRuns (_ : Message) (out : Outside) : Prop := out = .normal

/-- A world reachable with some answers is reachable with any answers that admit more. -/
theorem Reachable.mono {cfg : Config} {admits admits' : Message → Outside → Prop}
    (h : ∀ m out, admits m out → admits' m out) {w : World} (hw : Reachable cfg admits w) :
    Reachable cfg admits' w := by
  induction hw with
  | initial => exact .initial
  | step _ hm hout ih => exact ih.step hm (h _ _ hout)

@[simp] theorem Message.nextPhase_other {m : Message} {phase : Peer → Phase} {p : Peer}
    (hc : m ≠ .peerConnected p) (hd : m ≠ .peerDisconnected p) : m.nextPhase phase p = phase p := by
  unfold Message.nextPhase
  split <;> simp_all [Function.update_apply, @eq_comm _ p]

/-! ### The dispatch loop runs in reachable worlds -/

/-- The transport's order along a queue of messages. -/
def admissibleQueue : (Peer → Phase) → List Message → Bool
  | _, [] => true
  | phase, m :: ms => m.admissible phase && admissibleQueue (m.nextPhase phase) ms

/-- Messages in the transport's order, handled with every external call returning, lead from a
reachable world to a reachable world when the runs admit each of them with a world that always
returns. -/
theorem Reachable.foldl_next {cfg : Config} {admits : Message → Outside → Prop} {w : World}
    (hw : Reachable cfg admits w) (ms : List Message) (hnormal : ∀ m ∈ ms, admits m .normal)
    (hq : admissibleQueue w.phase ms = true) :
    Reachable cfg admits (ms.foldl (World.next cfg .normal) w) := by
  induction ms generalizing w with
  | nil => exact hw
  | cons m ms ih =>
    simp only [admissibleQueue, Bool.and_eq_true] at hq
    exact ih (hw.step hq.1 (hnormal m (List.mem_cons_self _ _)))
      (fun m' hm' => hnormal m' (List.mem_cons_of_mem _ hm')) hq.2

/-- The phase of every peer after a queue of messages. -/
def phaseAfter (phase : Peer → Phase) (ms : List Message) : Peer → Phase :=
  ms.foldl (fun phase m => m.nextPhase phase) phase

/-- A queue in the transport's order whose answers are admitted, and that the dispatch loop
drains, leaves the login server in a reachable world. -/
theorem Reachable.run {cfg : Config} {admits : Message → Outside → Prop} {w : World}
    (hw : Reachable cfg admits w) (queue : List (Message × Outside))
    (hq : admissibleQueue w.phase (queue.map Prod.fst) = true)
    (ha : ∀ d ∈ queue, admits d.1 d.2) {s : LoginServer}
    (hend : (LoginServer.run cfg w.server queue).2 = .waiting s) :
    Reachable cfg admits ⟨s, phaseAfter w.phase (queue.map Prod.fst)⟩ := by
  induction queue generalizing w with
  | nil => cases hend; exact hw
  | cons d queue ih =>
    simp only [List.map_cons, admissibleQueue, Bool.and_eq_true] at hq
    rcases LoginServer.run_cons_cases cfg w.server d.1 d.2 with hs | ⟨e, -, hs⟩ <;> rw [hs] at hend
    · exact ih (hw.step hq.1 (ha d (List.mem_cons_self _ _))) hq.2
        (fun d' hd' => ha d' (List.mem_cons_of_mem _ hd')) hend
    · cases hend

end Taserver
