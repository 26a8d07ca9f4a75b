import Taserver.State

/-! The registry methods of `LoginServer`: the lookups of game servers by server id and by match id,
the lookups of players by their fields and by display name, and `change_player_unique_id`, which
moves a player to a new key on login. -/

namespace Taserver

namespace LoginServer

variable (s : LoginServer)

/-- `LoginServer.find_server_by_id`: the first game server, in registry order, with that id. -/
def findServerById (serverId : Int) : Except Error Nat :=
  match s.gameServers.values.find? (fun r => (s.gameServer r).serverId == some serverId) with
  | some r => .ok r
  | none => .error (.protocolViolation "No server found with specified server ID")

/-- `LoginServer.find_server_by_match_id`: the first game server, in registry order, with that
match id. -/
def findServerByMatchId (matchId : Int) : Except Error Nat :=
  match s.gameServers.values.find? (fun r => (s.gameServer r).matchId == some matchId) with
  | some r => .ok r
  | none => .error (.protocolViolation "No server found with specified match ID")

/-- `LoginServer.find_players_by(**kwargs)`: the players whose fields equal the given values, in
registry order; `query` is the conjunction of these equalities. -/
def findPlayersBy (query : Player → Bool) : List Nat :=
  s.players.values.filter fun r => query (s.player r)

/-- `LoginServer.find_player_by(**kwargs)`: the only matching player, if any; two matches are a
`ValueError`. -/
def findPlayerBy (query : Player → Bool) : Except Error (Option Nat) :=
  match s.findPlayersBy query with
  | [] => .ok none
  | [r] => .ok (some r)
  | _ => .error .valueError

/-- `LoginServer.find_player_by_display_name`: the first player whose display name equals the
given one ignoring case, by the case map `lower` of `str.lower`. A player without a display name
makes `None.lower()` raise. -/
def findPlayerByDisplayName (lower : String → String) (displayName : String) :
    Except Error (Option Nat) := do
  let matching ← s.players.values.filterM fun r =>
    match (s.player r).displayName with
    | none => .error .attributeError
    | some d => .ok (lower d == lower displayName)
  pure matching.head?

/-- The state after `change_player_unique_id` moved player `r` from key `oldKey` to `newId`. -/
def rekey (oldKey newId : Int) (r : Nat) : LoginServer :=
  { s.updatePlayer r fun p => { p with uniqueId := some newId } with
    players := (s.players.erase oldKey).setItem newId r }

end LoginServer

/-- A case map that maps every ASCII string as `str.lower` does: `A` to `Z` to `a` to `z`, every
other character kept. Python's whole map, with its final-sigma rule, is left a parameter. -/
def FoldsAscii (lower : String → String) : Prop :=
  ∀ s : String, (∀ c ∈ s.data, c.toNat < 128) → lower s = ⟨s.data.map Char.toLower⟩

/-- `LoginServer.change_player_unique_id`. -/
def changePlayerUniqueId (oldId : Option Int) (newId : Int) : Handler Unit := do
  if newId ∈ (← get).players.keys then throw .alreadyLoggedIn
  -- `assert old_id in self.players`
  let some oldKey := oldId | throw .assertion
  let some player := (← get).players.get? oldKey | throw .assertion
  -- `assert new_id not in self.players`
  if newId ∈ (← get).players.keys then throw .assertion
  modify fun s => { s with players := s.players.erase oldKey }
  updatePlayer player fun p => { p with uniqueId := some newId }
  modify fun s => { s with players := s.players.setItem newId player }

section FilterM

variable {α ε : Type} (p : α → Except ε Bool) (t : α → Option Bool) (e : ε)
  (hp : ∀ a, p a = (t a).elim (.error e) .ok)
include hp

/-- The accumulator loop of `filterM` in `Except`, for a test `p` that raises `e` where `t` has no
answer. -/
theorem filterAuxM_except (l acc : List α) :
    List.filterAuxM p l acc =
      if l.all fun a => (t a).isSome then .ok ((l.filter fun a => t a == some true).reverse ++ acc)
      else .error e := by
  induction l generalizing acc with
  | nil => rfl
  | cons a l ih =>
    simp only [List.filterAuxM, hp a]
    rcases ht : t a with _ | b
    · simp [ht, bind, Except.bind]
    · cases b <;> simp [ht, ih, List.filter_cons, bind, Except.bind]

/-- `filterM` in `Except`, for a test that raises `e` where `t` has no answer: it raises `e` when
the test raises on some element, and otherwise keeps the elements it accepts. -/
theorem filterM_except (l : List α) :
    l.filterM p = if l.all fun a => (t a).isSome then .ok (l.filter fun a => t a == some true)
      else .error e := by
  unfold List.filterM
  rw [filterAuxM_except p t e hp]
  split <;> simp [bind, Except.bind, pure, Except.pure]

end FilterM

/-- `find_player_by_display_name` raises `AttributeError` when a stored player has no display name,
and otherwise returns the first stored player, in registry order, whose display name equals the
given one ignoring case. -/
theorem LoginServer.findPlayerByDisplayName_eq (s : LoginServer) (lower : String → String)
    (displayName : String) :
    s.findPlayerByDisplayName lower displayName =
      if s.players.values.all fun r => (s.player r).displayName.isSome then
        .ok (s.players.values.find? fun r =>
          (s.player r).displayName.map lower == some (lower displayName))
      else .error .attributeError := by
  unfold LoginServer.findPlayerByDisplayName
  rw [filterM_except _ (fun r => (s.player r).displayName.map fun d => lower d == lower displayName)
    .attributeError fun r => by dsimp only; cases (s.player r).displayName <;> rfl]
  have hall : (s.players.values.all fun r =>
      ((s.player r).displayName.map fun d => lower d == lower displayName).isSome) =
      s.players.values.all fun r => (s.player r).displayName.isSome := by
    congr 1
    funext r
    cases (s.player r).displayName <;> rfl
  rw [hall]
  split
  · simp only [bind, Except.bind, pure, Except.pure, List.filter_head?]
    congr 2
    funext r
    cases (s.player r).displayName <;> simp
  · rfl

section ChangePlayerUniqueId

variable {s : LoginServer} {oldId : Option Int} {newId : Int}

/-- A new id already in the registry raises `AlreadyLoggedInError` and changes nothing. -/
theorem changePlayerUniqueId_of_mem (h : newId ∈ s.players.keys) :
    changePlayerUniqueId oldId newId s = .error .alreadyLoggedIn s := by
  simp [changePlayerUniqueId, h]

/-- A free new id moves the player under the old key to it. -/
theorem changePlayerUniqueId_of_get {oldKey : Int} {r : Nat} (h : newId ∉ s.players.keys)
    (hold : s.players.get? oldKey = some r) :
    changePlayerUniqueId (some oldKey) newId s = .ok () (s.rekey oldKey newId r) := by
  simp [changePlayerUniqueId, h, hold, LoginServer.rekey]
  rfl

/-- The outcomes of `change_player_unique_id`: `AlreadyLoggedInError` or a failed assertion with
the state unchanged, or the re-key. -/
theorem changePlayerUniqueId_cases {res : EStateM.Result Error LoginServer Unit}
    (h : changePlayerUniqueId oldId newId s = res) :
    (newId ∈ s.players.keys ∧ res = .error .alreadyLoggedIn s) ∨
      (newId ∉ s.players.keys ∧ (oldId.bind s.players.get?) = none ∧ res = .error .assertion s) ∨
      (∃ oldKey r, newId ∉ s.players.keys ∧ oldId = some oldKey ∧
        s.players.get? oldKey = some r ∧ res = .ok () (s.rekey oldKey newId r)) := by
  subst h
  by_cases hnew : newId ∈ s.players.keys
  · exact .inl ⟨hnew, changePlayerUniqueId_of_mem hnew⟩
  rcases oldId with _ | oldKey
  · exact .inr (.inl ⟨hnew, rfl, by simp [changePlayerUniqueId, hnew]⟩)
  cases hold : s.players.get? oldKey with
  | none => exact .inr (.inl ⟨hnew, hold, by simp [changePlayerUniqueId, hnew, hold]⟩)
  | some r => exact .inr (.inr ⟨oldKey, r, hnew, rfl, hold, changePlayerUniqueId_of_get hnew hold⟩)

end ChangePlayerUniqueId

section Rekey

variable (s : LoginServer) (oldKey newId : Int) (r : Nat)

@[simp] theorem rekey_gameServers : (s.rekey oldKey newId r).gameServers = s.gameServers := rfl
@[simp] theorem rekey_gameServerObjects :
    (s.rekey oldKey newId r).gameServerObjects = s.gameServerObjects := rfl
@[simp] theorem rekey_calls : (s.rekey oldKey newId r).calls = s.calls := rfl
@[simp] theorem rekey_playerObjects (r' : Nat) :
    (s.rekey oldKey newId r).playerObjects r' =
      if r' = r then { s.playerObjects r with uniqueId := some newId } else s.playerObjects r' := by
  simp [LoginServer.rekey]

@[simp] theorem rekey_player (r' : Nat) :
    (s.rekey oldKey newId r).player r' =
      if r' = r then { s.player r with uniqueId := some newId } else s.player r' :=
  rekey_playerObjects s oldKey newId r r'

theorem mem_rekey_players {k : Int} {r' : Nat} :
    (k, r') ∈ (s.rekey oldKey newId r).players.items ↔
      (k = newId ∧ r' = r) ∨ (k ≠ newId ∧ k ≠ oldKey ∧ (k, r') ∈ s.players.items) := by
  simp only [LoginServer.rekey, Dict.mem_setItem, Dict.mem_erase]

/-- After a re-key the player is under the new id. -/
theorem get?_rekey_new : (s.rekey oldKey newId r).players.get? newId = some r := by
  simp [mem_rekey_players]

/-- After a re-key the old key is gone. -/
theorem not_mem_rekey_old (hne : oldKey ≠ newId) : oldKey ∉ (s.rekey oldKey newId r).players.keys := by
  simp [Dict.mem_keys, mem_rekey_players, hne]

/-- A re-key of the player under the old key to a free id keeps the entries of every other
player. -/
theorem get?_rekey_other {k : Int} {q : Nat} (hfree : newId ∉ s.players.keys)
    (hold : s.players.get? oldKey = some r) (hq : q ≠ r) :
    (s.rekey oldKey newId r).players.get? k = some q ↔ s.players.get? k = some q := by
  simp only [Dict.get?_eq_some, mem_rekey_players, hq, and_false, false_or] at hold ⊢
  refine ⟨fun h => h.2.2, fun h => ⟨?_, ?_, h⟩⟩
  · rintro rfl
    exact hfree (Dict.mem_keys_of_mem h)
  · rintro rfl
    exact hq (Dict.eq_of_mem h hold)

end Rekey

end Taserver
