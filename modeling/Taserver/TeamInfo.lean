import Taserver.Login

/-! The team-info event of a game server. `handle_team_info_message` goes through the mapping pair
by pair and sets the team of the player the registry holds under `int(player_id)` when that player
is on the emitting server; nothing else changes, whether it returns or `int` raises partway. The
registry is looked up by `int(player_id)`, so two ids whose strings differ but that `int` maps to
one key (`5` and `05`) reach the same player, which keeps the team of the later pair. -/

namespace Taserver

/-- The login server with the team of every player object `q` set to `team q`, and nothing else
changed. -/
def LoginServer.withTeams (s : LoginServer) (team : Nat → Option Int) : LoginServer :=
  { s with playerObjects := fun q => { s.player q with team := team q } }

namespace LoginServer

variable (s : LoginServer) (team : Nat → Option Int)

@[simp] theorem withTeams_players : (s.withTeams team).players = s.players := rfl

@[simp] theorem withTeams_player (q : Nat) :
    (s.withTeams team).player q = { s.player q with team := team q } := rfl

@[simp] theorem withTeams_withTeams (team' : Nat → Option Int) :
    (s.withTeams team).withTeams team' = s.withTeams team' := rfl

end LoginServer

/-! ### One pair, then the mapping -/

section TeamInfo

variable (r : Nat)

theorem handleTeamInfoMessage_cons (playerId : String) (teamId : Int)
    (playerToTeamId : List (String × Int)) :
    handleTeamInfoMessage r ((playerId, teamId) :: playerToTeamId) =
      (setTeamOf r playerId teamId >>= fun _ => handleTeamInfoMessage r playerToTeamId) := rfl

/-- One pair of the mapping: an id that `int` cannot parse raises `ValueError`; otherwise the
player the registry holds under it, if it is on server `r`, gets the pair's team. -/
theorem setTeamOf_apply (playerId : String) (teamId : Int) (s : LoginServer) :
    setTeamOf r playerId teamId s = match pyInt playerId with
      | none => .error .valueError s
      | some k => .ok () (s.withTeams fun q =>
          if s.players.get? k = some q ∧ (s.player q).gameServer = some r then some teamId
          else (s.player q).team) := by
  unfold setTeamOf
  rcases pyInt playerId with _ | k
  · rfl
  simp only [Handler.bind_apply, Handler.get_apply]
  rcases hk : s.players.get? k with _ | q
  · rfl
  by_cases hg : (s.player q).gameServer = some r
  · simp only [hg, ↓reduceIte, updatePlayer_apply, EStateM.Result.ok.injEq, true_and]
    simp only [LoginServer.updatePlayer, LoginServer.withTeams, LoginServer.mk.injEq, true_and,
      and_true]
    funext q'
    by_cases hq : q' = q
    · subst hq
      simp [hg]
    · simp [Function.update_apply, hq, Ne.symm hq]
  · have hteam : (fun q' => if some q = some q' ∧ (s.player q').gameServer = some r then
        some teamId else (s.player q').team) = fun q' => (s.player q').team :=
      funext fun q' => if_neg fun ⟨hq, h⟩ => hg (by cases hq; exact h)
    rw [hteam]
    simp only [hg, ↓reduceIte, Handler.pure_apply]
    rfl

variable {r}

/-- The mapping changes nothing but teams, and a player's team only to the team of a pair whose
id reaches it: an id the registry holds the player under, the player being on server `r`. -/
theorem handleTeamInfoMessage_withTeams (playerToTeamId : List (String × Int)) (s : LoginServer) :
    ∃ team, resultState (handleTeamInfoMessage r playerToTeamId s) = s.withTeams team ∧
      ∀ q, team q = (s.player q).team ∨ ∃ playerId teamId k,
        (playerId, teamId) ∈ playerToTeamId ∧ pyInt playerId = some k ∧
        s.players.get? k = some q ∧ (s.player q).gameServer = some r ∧ team q = some teamId := by
  induction playerToTeamId generalizing s with
  | nil => exact ⟨fun q => (s.player q).team, rfl, fun _ => .inl rfl⟩
  | cons pair rest ih =>
    obtain ⟨playerId, teamId⟩ := pair
    rw [handleTeamInfoMessage_cons, Handler.bind_apply, setTeamOf_apply]
    rcases hk : pyInt playerId with _ | k
    · exact ⟨fun q => (s.player q).team, rfl, fun _ => .inl rfl⟩
    obtain ⟨team, hs, hteam⟩ := ih (s.withTeams _)
    refine ⟨team, hs, fun q => ?_⟩
    rcases hteam q with h | ⟨playerId', teamId', k', hmem, hk', hget, hg, ht⟩
    · by_cases hq : s.players.get? k = some q ∧ (s.player q).gameServer = some r
      · exact .inr ⟨playerId, teamId, k, List.mem_cons_self _ _, hk, hq.1, hq.2,
          by simpa only [LoginServer.withTeams_player, if_pos hq] using h⟩
      · exact .inl (by simpa only [LoginServer.withTeams_player, if_neg hq] using h)
    · exact .inr ⟨playerId', teamId', k', List.mem_cons_of_mem _ hmem, hk', hget, by simpa using hg, ht⟩

/-- When the whole mapping is applied, a player that a pair reaches keeps that pair's team if no
later pair reaches it. -/
theorem handleTeamInfoMessage_last (pre post : List (String × Int)) {playerId : String}
    {teamId : Int} {k : Int} {q : Nat} {s s' : LoginServer} (hk : pyInt playerId = some k)
    (hget : s.players.get? k = some q) (hg : (s.player q).gameServer = some r)
    (hpost : ∀ playerId' teamId' k', (playerId', teamId') ∈ post → pyInt playerId' = some k' →
      s.players.get? k' ≠ some q)
    (h : handleTeamInfoMessage r (pre ++ (playerId, teamId) :: post) s = .ok () s') :
    (s'.player q).team = some teamId := by
  induction pre generalizing s with
  | nil =>
    rw [List.nil_append, handleTeamInfoMessage_cons, Handler.bind_apply, setTeamOf_apply] at h
    simp only [hk] at h
    obtain ⟨team, hs, hteam⟩ := handleTeamInfoMessage_withTeams post (s.withTeams _)
    rw [h, resultState_ok, LoginServer.withTeams_withTeams] at hs
    subst hs
    rcases hteam q with ht | ⟨_, _, _, hmem, hk', hget', -, -⟩
    · simpa [hget, hg] using ht
    · exact absurd hget' (hpost _ _ _ hmem hk')
  | cons pair pre ih =>
    rw [List.cons_append, handleTeamInfoMessage_cons, Handler.bind_apply, setTeamOf_apply] at h
    rcases hk' : pyInt pair.1 with _ | k'
    · simp [hk'] at h
    · simp only [hk'] at h
      exact ih (by simpa using hget) (by simpa using hg) (by simpa using hpost) h

/-- The mapping raises only at the first id that `int` cannot parse, in the state the pairs
before it leave. -/
theorem handleTeamInfoMessage_error {playerToTeamId : List (String × Int)} {s s' : LoginServer}
    {e : Error} (h : handleTeamInfoMessage r playerToTeamId s = .error e s') :
    e = .valueError ∧ ∃ pre playerId teamId post,
      playerToTeamId = pre ++ (playerId, teamId) :: post ∧ pyInt playerId = none ∧
      handleTeamInfoMessage r pre s = .ok () s' := by
  induction playerToTeamId generalizing s with
  | nil => cases h
  | cons pair rest ih =>
    obtain ⟨playerId, teamId⟩ := pair
    rw [handleTeamInfoMessage_cons, Handler.bind_apply, setTeamOf_apply] at h
    rcases hk : pyInt playerId with _ | k
    · simp only [hk, EStateM.Result.error.injEq] at h
      obtain ⟨rfl, rfl⟩ := h
      exact ⟨rfl, [], playerId, teamId, rest, rfl, hk, rfl⟩
    · simp only [hk] at h
      obtain ⟨he, pre, playerId', teamId', post, rfl, hk', hpre⟩ := ih h
      refine ⟨he, (playerId, teamId) :: pre, playerId', teamId', post, rfl, hk', ?_⟩
      rw [handleTeamInfoMessage_cons, Handler.bind_apply, setTeamOf_apply, hk]
      exact hpre

end TeamInfo

/-! ### The team-info event as a whole -/

/-- For every state, game server `r` and mapping, the event changes only teams, and only of players
on `r` held under `int(id)` of a pair, to that pair's team; when it returns the last such pair
wins, and when it raises it is `ValueError` at the first id `int` rejects. -/
theorem handleTeamInfoMessage_confined (r : Nat) (playerToTeamId : List (String × Int))
    (s : LoginServer) :
    let res := handleTeamInfoMessage r playerToTeamId s
    let s' := resultState res
    s' = { s with playerObjects := fun q => { s.player q with team := (s'.player q).team } } ∧
    (∀ q, (s'.player q).team = (s.player q).team ∨ ∃ playerId teamId k,
      (playerId, teamId) ∈ playerToTeamId ∧ pyInt playerId = some k ∧
      s.players.get? k = some q ∧ (s.player q).gameServer = some r ∧
      (s'.player q).team = some teamId) ∧
    (∀ pre playerId teamId post k q, playerToTeamId = pre ++ (playerId, teamId) :: post →
      pyInt playerId = some k → s.players.get? k = some q → (s.player q).gameServer = some r →
      (∀ playerId' teamId' k', (playerId', teamId') ∈ post → pyInt playerId' = some k' →
        s.players.get? k' ≠ some q) →
      res = .ok () s' → (s'.player q).team = some teamId) ∧
    (∀ e, res = .error e s' → e = .valueError ∧ ∃ pre playerId teamId post,
      playerToTeamId = pre ++ (playerId, teamId) :: post ∧ pyInt playerId = none ∧
      handleTeamInfoMessage r pre s = .ok () s') := by
  intro res s'
  obtain ⟨team, hs, hteam⟩ := @handleTeamInfoMessage_withTeams r playerToTeamId s
  have hteam' : ∀ q, (s'.player q).team = team q := fun q => by simp [s', res, hs]
  refine ⟨hs.trans (congrArg s.withTeams (funext fun q => (hteam' q).symm)),
    fun q => hteam' q ▸ hteam q, ?_, fun e he => handleTeamInfoMessage_error he⟩
  rintro pre playerId teamId post k q rfl hk hget hg hpost hok
  exact handleTeamInfoMessage_last pre post hk hget hg hpost hok

/-- The mapping of player 0's id in two forms, on its game server 0, returns, and the second
form's team is the one player 0 ends with. -/
theorem teamInfo_second_form_applied :
    let s := connectedGuest.updatePlayer 0 fun p => { p with gameServer := some 0 }
    let res := handleTeamInfoMessage 0 [("10000000", 1), ("010000000", 2)] s
    res = .ok () (resultState res) ∧ ((resultState res).player 0).team = some 2 := by
  intro s res
  have hok : res = .ok () (resultState res) := rfl
  exact ⟨hok, (handleTeamInfoMessage_confined 0 _ s).2.2.1 [("10000000", 1)] "010000000" 2 []
    10000000 0 rfl (by decide) (by decide) (by simp [s]) (fun _ _ _ h => absurd h (List.not_mem_nil _))
    hok⟩

/-- Player 0 is stored under 10,000,000 and on game server 0; the mapping from its id as
`10000000` to team 1 and as `010000000` to team 2 leaves it in team 2. -/
theorem teamInfo_later_form_of_id_wins :
    let s := connectedGuest.updatePlayer 0 fun p => { p with gameServer := some 0 }
    pyInt "10000000" = some 10000000 ∧ pyInt "010000000" = some 10000000 ∧
      s.players.get? 10000000 = some 0 ∧ (s.player 0).gameServer = some 0 ∧
      ∃ s', handleTeamInfoMessage 0 [("10000000", 1), ("010000000", 2)] s = .ok () s' ∧
        (s'.player 0).team = some 2 :=
  ⟨by decide, by decide, by decide, rfl, _, rfl, by decide⟩

end Taserver
