import Taserver.Sessions

/-! A player's record is its own. In every run in which every external call returns, the messages
of every other peer change nothing of a player's record but its team, which only the team-info event
of its game server sets: the connects, disconnects and logins of other players, auth-code and status
requests and the launcher events leave its unique id, names, flags, credentials and state as they
were. Callbacks are left out: `pending_callbacks.execute` runs code of the gameplay states, which
is not modelled.

A login re-keys the player that the registry holds under the unique id of the player logging in
(`change_player_unique_id(self.player.unique_id, ...)`), which need not be that player; so the
result rests on the registry invariant, by which that id is the key of the logging-in player
alone. -/

namespace Taserver

/-- No key under which the registry holds player `r` is the unique id of player `r'`. -/
def KeyedApart (r r' : Nat) (s : LoginServer) : Prop :=
  ∀ k, s.players.get? k = some r → (s.player r').uniqueId ≠ some k

/-- Player `r`'s record is unchanged, and so is `KeyedApart r r'`, from any state where it held. -/
def RecordKept (r r' : Nat) (s s' : LoginServer) : Prop :=
  KeyedApart r r' s → KeyedApart r r' s' ∧ s'.player r = s.player r

/-- Player `r`'s record is unchanged. -/
def PlayerKept (r : Nat) (s s' : LoginServer) : Prop := s'.player r = s.player r

theorem isFrame_recordKept (r r' : Nat) : IsFrame (RecordKept r r') where
  refl _ h := ⟨h, rfl⟩
  trans h₁ h₂ h := ⟨(h₂ (h₁ h).1).1, (h₂ (h₁ h).1).2.trans (h₁ h).2⟩
  record _ _ h := ⟨h, rfl⟩

theorem isFrame_playerKept (r : Nat) : IsFrame (PlayerKept r) where
  refl _ := rfl
  trans h₁ h₂ := h₂.trans h₁
  record _ _ := rfl

/-- A record that differs from another at most in its team. -/
theorem eq_withTeam_of_eq {p p' : Player} (h : p' = p) : p' = { p with team := p'.team } := by
  subst h
  rfl

/-- Two changes of a record at most in its team are one. -/
theorem eq_withTeam_trans {p₀ p₁ p₂ : Player} (h₁ : p₁ = { p₀ with team := p₁.team })
    (h₂ : p₂ = { p₁ with team := p₂.team }) : p₂ = { p₀ with team := p₂.team } :=
  h₂.trans (by rw [h₁])

/-! ### Another player's login -/

/-- The re-key of the player held under player `r'`'s unique id: that player is not `r`, since
no key of `r` is `r'`'s id, and afterwards the keys of `r` are those it had. -/
theorem recordKept_rekey {r r' : Nat} {s : LoginServer} {oldKey newId : Int} {r'' : Nat}
    (hold : (s.player r').uniqueId = some oldKey) (hget : s.players.get? oldKey = some r'') :
    RecordKept r r' s (s.rekey oldKey newId r'') := by
  intro h
  have hr'' : r ≠ r'' := fun e => h oldKey (e ▸ hget) hold
  refine ⟨fun k hk => ?_, by simp [hr'']⟩
  rw [Dict.get?_eq_some, mem_rekey_players] at hk
  rcases hk with ⟨-, e⟩ | ⟨hk, -, hk'⟩
  · exact absurd e hr''
  · rw [rekey_player]
    split_ifs
    · simpa using Ne.symm hk
    · exact h k (Dict.get?_eq_some.2 hk')

section Login

variable {r r' : Nat} (hne : r ≠ r')
include hne

/-- A change of player `r'` that keeps its unique id. -/
theorem recordKept_updatePlayer (s : LoginServer) {f : Player → Player}
    (hf : (f (s.player r')).uniqueId = (s.player r').uniqueId) :
    RecordKept r r' s (s.updatePlayer r' f) :=
  fun h => ⟨fun k hk => by simpa [hf] using h k hk, by simp [hne]⟩

/-- Another player's login keeps player `r`'s record, whatever the world answers. -/
theorem loginFrame_recordKept : LoginFrame r' (RecordKept r r') where
  toIsFrame := isFrame_recordKept r r'
  updatePlayer s _ hf := recordKept_updatePlayer hne s hf
  rekey _ _ _ _ hold hget := recordKept_rekey hold hget

end Login

/-! ### Every message of another peer -/

/-- In the registry invariant, a connected player's id is no key of another player. -/
theorem PlayerInv.keyedApart {cfg : Config} {ph : Nat → Phase} {s : LoginServer} {r r' : Nat}
    (hi : PlayerInv cfg ph s.roster) (hne : r ≠ r') (hc : ph r' = .connected) :
    KeyedApart r r' s := fun k hk hid => by
  obtain ⟨k', hk', hid'⟩ := hi.get?_uniqueId hc
  cases Option.some_inj.1 (hid'.symm.trans hid)
  exact hne (Option.some_inj.1 (hk.symm.trans hk'))

/-- From every world reachable when every external call returns, a message in the transport's order
that is not of player `r` changes nothing of `r`'s record but its team, whatever the world answers
to it. -/
theorem Reachable.record_step {cfg : Config} {w : World} (hw : Reachable cfg normalRuns w)
    {m : Message} (hm : m.admissible w.phase = true) {r : Nat} (hr : m.peer? ≠ some (.player r))
    (out : Outside) :
    let s' := resultState (handleMessage cfg out m w.server)
    s'.player r = { w.server.player r with team := (s'.player r).team } := by
  cases hp : m.touchesPlayers
  · exact (keeps_teamsOnly cfg out m hp w.server).2 r
  have hk := isFrame_playerKept r
  cases m with
  | peerConnected p =>
    cases p <;> simp only [Message.touchesPlayers, reduceCtorEq] at hp
    have hne : r ≠ _ := fun e => hr (e ▸ rfl)
    exact eq_withTeam_of_eq (keeps_connectPlayer hk out _ (fun _ _ => by simp [PlayerKept, hne])
      (fun _ => by simp [PlayerKept, hne]) (fun _ _ => rfl) w.server)
  | peerDisconnected p =>
    cases p <;> simp only [Message.touchesPlayers, reduceCtorEq] at hp
    have hne : r ≠ _ := fun e => hr (e ▸ rfl)
    exact eq_withTeam_of_eq (keeps_disconnectPlayer hk out _ (fun _ => by simp [PlayerKept, hne])
      (fun _ _ => rfl) w.server)
  | loginProtocol r' clientSeq requests =>
    have hne : r ≠ r' := fun e => hr (e ▸ rfl)
    have hc : w.phase (.player r') = .connected := by simpa [Message.admissible] using hm
    exact eq_withTeam_of_eq ((loginFrame_recordKept hne).keeps_handleClientMessage cfg out clientSeq
      requests w.server (hw.playerInv.keyedApart hne hc)).2
  | _ => simp [Message.touchesPlayers] at hp

/-- Along every run in the transport's order from a world reachable when every external call
returns, every external call returning, messages each of a peer other than player `r` leave `r`'s
record as it was but for its team: another player's login, connect or disconnect never changes it. -/
theorem others_keep_player_record (cfg : Config) (w : World) (hw : Reachable cfg normalRuns w)
    (r : Nat) (ms : List Message) (hq : admissibleQueue w.phase ms = true)
    (hms : ∀ m ∈ ms, m.peer?.isSome ∧ m.peer? ≠ some (.player r)) :
    let w' := ms.foldl (World.next cfg .normal) w
    w'.server.player r = { w.server.player r with team := (w'.server.player r).team } := by
  induction ms generalizing w with
  | nil => rfl
  | cons m ms ih =>
    simp only [admissibleQueue, Bool.and_eq_true] at hq
    have hstep := hw.record_step hq.1 (hms m (List.mem_cons_self _ _)).2 .normal
    have hrest := ih (w.next cfg .normal m) (hw.step hq.1 rfl) hq.2 fun m' hm' =>
      hms m' (List.mem_cons_of_mem _ hm')
    exact eq_withTeam_trans hstep hrest

/-- After `sampleRun`, Bob sending a login request again and bob disconnecting leave Alice's
record, player 2's, as it was but for its team. -/
theorem sampleWorld_others_keep_alice :
    let ms := [Message.loginProtocol 0 2 [.a003a (some "Bob") (some [2])],
      .peerDisconnected (.player 1)]
    let w' := ms.foldl (World.next sampleConfig .normal) sampleWorld
    admissibleQueue sampleWorld.phase ms = true ∧
      (∀ m ∈ ms, m.peer?.isSome ∧ m.peer? ≠ some (.player 2)) ∧
      w'.server.player 2 = { sampleWorld.server.player 2 with team := (w'.server.player 2).team } :=
  ⟨by decide, by decide,
    others_keep_player_record sampleConfig sampleWorld sampleWorld_reachable 2 _ (by decide) (by decide)⟩

end Taserver
