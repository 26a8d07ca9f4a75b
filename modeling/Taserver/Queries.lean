import Taserver.Credentials
import Taserver.ServerInvariant

/-! What the login server answers its peers and its callers. The `/status` page counts the items
of the two registries, which in the worlds that runs reach are the connected players and the
connected game servers, each once. `find_player_by_display_name` reads the display name of every
stored player; a connected player that has not completed its login has none, so the lookup raises
`AttributeError` exactly while some player is between its connect and its login. -/

namespace Taserver

section Registries

variable {cfg : Config} {ph : Nat → Phase} {s : LoginServer}

/-- The stored players are distinct. -/
theorem PlayerInv.nodup_values (hi : PlayerInv cfg ph s.roster) : s.players.values.Nodup :=
  s.players.nodup_values_of_keyed (fun r => (s.player r).uniqueId) (Option.some_injective _)
    fun k r h => (hi r).keyed k (Dict.get?_eq_some.2 h)

/-- The stored game servers are distinct. -/
theorem ServerInv.nodup_values (hi : ServerInv ph s.fleet) : s.gameServers.values.Nodup :=
  s.gameServers.nodup_values_of_keyed (fun g => (s.gameServer g).serverId) (Option.some_injective _)
    fun k g h => ((hi g).keyed k (Dict.get?_eq_some.2 h)).1

end Registries

/-- In every world reachable when every external call returns, `/status` reports the numbers of
connected players and of connected game servers: it sends the lengths of two lists without
repetition whose members are exactly the connected players and the connected servers. -/
theorem status_counts_connected (cfg : Config) (w : World) (hw : Reachable cfg normalRuns w)
    (peer : Nat) :
    ∃ players gameServers : List Nat, players.Nodup ∧
      (∀ r, r ∈ players ↔ w.phase (.player r) = .connected) ∧ gameServers.Nodup ∧
      (∀ g, g ∈ gameServers ↔ w.phase (.gameServer g) = .connected) ∧
      handleHttpRequestMessage .normal peer "/status" w.server =
        .ok () (w.server.record [.sendResponse peer (some (players.length, gameServers.length))]) := by
  have hi := hw.playerInv
  have hs := (@Reachable.mono cfg normalRuns serverRuns (fun _ _ h _ => h) w hw).serverInv
  refine ⟨w.server.players.values, w.server.gameServers.values, hi.nodup_values, fun r => (hi r).held,
    hs.nodup_values, fun g => (hs g).held, ?_⟩
  simp [handleHttpRequestMessage, Dict.values]

/-- `sampleWorld` has three connected players and no game server. -/
theorem sampleWorld_status :
    ∃ players gameServers : List Nat, players.Nodup ∧
      (∀ r, r ∈ players ↔ sampleWorld.phase (.player r) = .connected) ∧ gameServers.Nodup ∧
      (∀ g, g ∈ gameServers ↔ sampleWorld.phase (.gameServer g) = .connected) ∧
      handleHttpRequestMessage .normal 7 "/status" sampleWorld.server =
        .ok () (sampleWorld.server.record [.sendResponse 7 (some (players.length, gameServers.length))]) :=
  status_counts_connected sampleConfig sampleWorld sampleWorld_reachable 7

/-- In every world reachable when every external call returns, every stored player has a display
name exactly when no connected player is still unauthenticated. -/
theorem Reachable.all_displayName_isSome_iff {cfg : Config} {w : World}
    (hw : Reachable cfg normalRuns w) :
    (w.server.players.values.all fun r => (w.server.player r).displayName.isSome) = true ↔
      ∀ r, w.phase (.player r) = .connected → (w.server.player r).state ≠ some .unauthenticated := by
  have hi := hw.playerInv
  rw [List.all_eq_true]
  constructor
  · intro h r hc hu
    rcases (hi r).session hc with ⟨-, -, hd⟩ | ha
    · have hd' := h r ((hi r).held.2 hc)
      simp only [LoginServer.roster_displayName] at hd
      simp [hd] at hd'
    · simp [hu] at ha
  · intro h r hr
    have hc := (hi r).held.1 hr
    rcases (hi r).session hc with ⟨hu, -⟩ | ha
    · exact absurd hu (h r hc)
    · exact (hw.named r ha).1

/-- In every world reachable when every external call returns and for every case map,
`find_player_by_display_name(n)` raises `AttributeError` exactly when some connected player has
not completed its login, and otherwise returns the first connected player, in registry order, whose
display name equals `n` ignoring case. -/
theorem findPlayerByDisplayName_reachable (cfg : Config) (w : World)
    (hw : Reachable cfg normalRuns w) (lower : String → String) (displayName : String) :
    (w.server.findPlayerByDisplayName lower displayName = .error .attributeError ↔
      ∃ r, w.phase (.player r) = .connected ∧ (w.server.player r).state = some .unauthenticated) ∧
    ((∀ r, w.phase (.player r) = .connected → (w.server.player r).state ≠ some .unauthenticated) →
      w.server.findPlayerByDisplayName lower displayName = .ok (w.server.players.values.find? fun r =>
        (w.server.player r).displayName.map lower == some (lower displayName))) := by
  have hall := hw.all_displayName_isSome_iff
  refine ⟨?_, fun h => by rw [LoginServer.findPlayerByDisplayName_eq, if_pos (hall.2 h)]⟩
  rw [LoginServer.findPlayerByDisplayName_eq]
  split
  · exact ⟨(fun h => by cases h), fun ⟨r, hc, hu⟩ => absurd hu (hall.1 ‹_› r hc)⟩
  · refine ⟨fun _ => ?_, fun _ => rfl⟩
    by_contra hne
    push_neg at hne
    exact ‹¬_› (hall.2 hne)

/-- Players 0, 1 and 2 connect and player 0 logs in as the guest `Bob`. -/
def midLoginWorld : World :=
  (sampleRun.take 4).foldl (World.next sampleConfig .normal) World.initial

theorem midLoginWorld_reachable : Reachable sampleConfig normalRuns midLoginWorld :=
  @Reachable.foldl_next sampleConfig normalRuns _ .initial _ (fun _ _ => rfl) (by decide)

/-- While players 1 and 2 have not logged in, looking up player 0's display name raises. -/
theorem midLoginWorld_lookup_raises :
    midLoginWorld.server.findPlayerByDisplayName (fun n => ⟨n.data.map Char.toLower⟩) "unvrf-Bob" =
      .error .attributeError :=
  (findPlayerByDisplayName_reachable sampleConfig midLoginWorld midLoginWorld_reachable _
    "unvrf-Bob").1.2 ⟨1, by decide, by decide⟩

end Taserver
