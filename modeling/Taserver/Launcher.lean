import Taserver.State

/-! The handlers of the eight launcher events and of the launcher's protocol version. Each writes
the fields of the game server it names; the team-info event alone writes players, and only those
the registry holds under an id of the mapping and that are on the emitting server. The parsers the
handlers call follow CPython: `int()` first maps Unicode spaces and decimal digits to ASCII, by the
Unicode database of Python 3.11 (Unicode 14.0), and then parses ASCII; `StrictVersion` and
`IPv4Address` read ASCII digits only, and `bytes()` integers. -/

namespace Taserver

/-- The value of a non-empty string of decimal digits. -/
def digitsValue (ds : List Char) : Nat := ds.foldl (fun n c => 10 * n + (c.toNat - '0'.toNat)) 0

/-- A non-empty string of ASCII decimal digits. -/
def isDigits (ds : List Char) : Bool := !ds.isEmpty && ds.all Char.isDigit

/-! ### `int()` -/

/-- The code points of the zeros of the Unicode decimal digits (Unicode 14.0, the database of
Python 3.11); each is followed by the digits one to nine. -/
def decimalZeros : List Nat :=
  [0x30, 0x660, 0x6f0, 0x7c0, 0x966, 0x9e6, 0xa66, 0xae6, 0xb66, 0xbe6, 0xc66, 0xce6, 0xd66,
  0xde6, 0xe50, 0xed0, 0xf20, 0x1040, 0x1090, 0x17e0, 0x1810, 0x1946, 0x19d0, 0x1a80, 0x1a90,
  0x1b50, 0x1bb0, 0x1c40, 0x1c50, 0xa620, 0xa8d0, 0xa900, 0xa9d0, 0xa9f0, 0xaa50, 0xabf0,
  0xff10, 0x104a0, 0x10d30, 0x11066, 0x110f0, 0x11136, 0x111d0, 0x112f0, 0x11450, 0x114d0,
  0x11650, 0x116c0, 0x11730, 0x118e0, 0x11950, 0x11c50, 0x11d50, 0x11da0, 0x16a60, 0x16ac0,
  0x16b50, 0x1d7ce, 0x1d7d8, 0x1d7e2, 0x1d7ec, 0x1d7f6, 0x1e140, 0x1e2f0, 0x1e950, 0x1fbf0]

/-- `Py_UNICODE_TODECIMAL`: the value of a Unicode decimal digit. -/
def decimalValue (c : Char) : Option Nat :=
  (decimalZeros.find? fun z => z ≤ c.toNat && c.toNat < z + 10).map (c.toNat - ·)

/-- `Py_UNICODE_ISSPACE` from 127 on: the Unicode spaces. -/
def isUnicodeSpace (c : Char) : Bool :=
  c.toNat = 0x85 || c.toNat = 0xa0 || c.toNat = 0x1680 ||
    (0x2000 ≤ c.toNat && c.toNat ≤ 0x200a) || c.toNat = 0x2028 || c.toNat = 0x2029 ||
    c.toNat = 0x202f || c.toNat = 0x205f || c.toNat = 0x3000

/-- One character of `_PyUnicode_TransformDecimalAndSpaceToASCII`, which `int()` applies to a
string first: a character below 127 is kept, a Unicode space becomes a space and a decimal digit
its ASCII digit; any other character cuts the string at a `?`, which no integer contains. -/
def asciiForInt (c : Char) : Option Char :=
  if c.toNat < 127 then some c
  else if isUnicodeSpace c then some ' '
  else (decimalValue c).map Nat.digitChar

/-- `Py_ISSPACE`: the ASCII whitespace that `PyLong_FromString` skips, space and `\t` to `\r`;
not the separators `\x1c` to `\x1f`, which `str.isspace` also holds for. -/
def isAsciiSpace (c : Char) : Bool := c = ' ' || (9 ≤ c.toNat && c.toNat ≤ 13)

/-- `PyLong_FromString` in base 10: surrounding whitespace, an optional sign, and decimal digits
that single underscores may separate; `none` is the `ValueError` of any other string. -/
def parseAsciiInt (ascii : List Char) : Option Int :=
  let cs := ((ascii.dropWhile isAsciiSpace).reverse.dropWhile isAsciiSpace).reverse
  let (negative, body) := match cs with
    | '-' :: rest => (true, rest)
    | '+' :: rest => (false, rest)
    | rest => (false, rest)
  let groups := body.splitOn '_'
  if groups.all isDigits then
    let n : Int := digitsValue (groups.foldr (· ++ ·) [])
    some (if negative then -n else n)
  else none

/-- `int(s)` for a string. -/
def pyInt (s : String) : Option Int := (s.data.mapM asciiForInt).bind parseAsciiInt

example : pyInt " -1_000 " = some (-1000) ∧ pyInt "1__0" = none ∧ pyInt "007" = some 7 ∧
    pyInt "١٢" = some 12 ∧ pyInt ⟨[Char.ofNat 0x1c, '5']⟩ = none := by
  decide

/-! ### `StrictVersion` -/

/-- The letter of a pre-release tag. -/
def PrereleaseTag.letter : PrereleaseTag → Char
  | .a => 'a'
  | .b => 'b'

/-- The pre-release part of a version string: nothing, or `a` or `b` and decimal digits. -/
def prereleaseOf : List Char → Option (Option (PrereleaseTag × Nat))
  | [] => some none
  | 'a' :: ds => if isDigits ds then some (some (.a, digitsValue ds)) else none
  | 'b' :: ds => if isDigits ds then some (some (.b, digitsValue ds)) else none
  | _ => none

/-- `StrictVersion(s)` for a non-empty string: `version_re`, `(\d+) \. (\d+) (\. (\d+))?
([ab](\d+))?$` with `re.ASCII`, matched by `re.match`, whose `$` also matches before a final
newline; a missing patch is 0, and `none` is the `ValueError` of any other string. -/
def strictVersion (s : String) : Option StrictVersion :=
  let cs := if s.data.getLast? = some '\n' then s.data.dropLast else s.data
  let (main, tag) := cs.span fun c => c ≠ 'a' && c ≠ 'b'
  match prereleaseOf tag, main.splitOn '.' with
  | some prerelease, [major, minor] =>
    if isDigits major && isDigits minor then
      some ⟨(digitsValue major, digitsValue minor, 0), prerelease⟩
    else none
  | some prerelease, [major, minor, patch] =>
    if isDigits major && isDigits minor && isDigits patch then
      some ⟨(digitsValue major, digitsValue minor, digitsValue patch), prerelease⟩
    else none
  | _, _ => none

/-- `str(StrictVersion)`: the patch is left out when it is 0, and the pre-release tag follows. -/
def versionString (v : StrictVersion) : String :=
  let main := if v.version.2.2 = 0 then toString v.version.1 ++ "." ++ toString v.version.2.1
    else toString v.version.1 ++ "." ++ toString v.version.2.1 ++ "." ++ toString v.version.2.2
  match v.prerelease with
  | none => main
  | some (tag, n) => main ++ ⟨[tag.letter]⟩ ++ toString n

example : strictVersion "1.2.3" = some ⟨(1, 2, 3), none⟩ ∧
    strictVersion "0.1a4\n" = some ⟨(0, 1, 0), some (.a, 4)⟩ ∧ strictVersion "1.2c1" = none ∧
    strictVersion "1.2\n\n" = none := by
  decide

/-! ### `IPv4Address` and `bytes()` -/

/-- An octet of an IPv4 address: one to three digits, no leading zero, at most 255. -/
def isOctet (ds : List Char) : Bool :=
  isDigits ds && ds.length ≤ 3 && (ds.length = 1 || ds.head? ≠ some '0') && digitsValue ds ≤ 255

/-- `ipaddress.IPv4Address(s)`; `none` is its `AddressValueError`, a `ValueError`. -/
def ipv4Address (s : String) : Option IPv4 :=
  let octets := s.data.splitOn '.'
  if octets.length = 4 && octets.all isOctet then some (octets.map digitsValue) else none

/-- `IPv4Address(ip) if ip else None`. -/
def optionalAddress : Option String → Except Error (Option IPv4)
  | none => .ok none
  | some ip =>
    if ip.isEmpty then .ok none
    else match ipv4Address ip with
      | some a => .ok (some a)
      | none => .error .valueError

/-- `bytes(xs)`: a `ValueError` for an integer outside 0..255. -/
def pyBytes (xs : List Int) : Except Error (List UInt8) :=
  if xs.all fun x => 0 ≤ x && x < 256 then .ok (xs.map fun x => x.toNat.toUInt8)
  else .error .valueError

/-- An `Except` in a handler. -/
def liftExcept {α : Type} : Except Error α → Handler α
  | .ok a => pure a
  | .error e => throw e

/-- Modelled from the spec: gameserver.py is not under src/. `game_server.set_address_info(pair)`,
an external call that stores the address pair when it returns. -/
def setAddressInfo (out : Outside) (r : Nat) (pair : Option IPv4 × Option IPv4) : Handler Unit := do
  call out (.setAddressInfo r)
  updateGameServer r fun g => { g with addressPair := some pair }

/-- Modelled from the spec: gameserver.py is not under src/. `game_server.set_info(description,
motd, game_setting_mode, password_hash)`. -/
def setInfo (out : Outside) (r : Nat) (description motd gameSettingMode : String)
    (passwordHash : Option (List UInt8)) : Handler Unit := do
  call out (.setInfo r)
  updateGameServer r fun g =>
    { g with
      description := some description
      motd := some motd
      gameSettingMode := some gameSettingMode
      passwordHash }

/-- Modelled from the spec: gameserver.py is not under src/. `game_server.set_match_time(
seconds_remaining, counting)`. -/
def setMatchTime (out : Outside) (r : Nat) (secondsRemaining : Int) (counting : Bool) :
    Handler Unit := do
  call out (.setMatchTime r)
  updateGameServer r fun g => { g with matchTime := some (secondsRemaining, counting) }

/-- Modelled from the spec: gameserver.py is not under src/. `game_server.set_ready(port)`. -/
def setReady (out : Outside) (r : Nat) (port : Option Int) : Handler Unit := do
  call out (.setReady r)
  updateGameServer r fun g => { g with port := port }

/-- `LoginServer.handle_launcher_protocol_version_message` from game server `r`: a launcher whose
major version differs is told the server's version and disconnected. `StrictVersion('')` parses
nothing, so reading its `version` raises `AttributeError`. -/
def handleLauncherProtocolVersionMessage (cfg : Config) (out : Outside) (r : Nat)
    (version : String) : Handler Unit :=
  if version.isEmpty then throw .attributeError
  else do
    let some launcherVersion := strictVersion version | throw .valueError
    if cfg.protocolVersion.version.1 ≠ launcherVersion.version.1 then
      call out (.send (.gameServer r) (.protocolVersion (versionString cfg.protocolVersion)))
      call out (.disconnect (.gameServer r))

/-- `LoginServer.handle_address_info_message`. -/
def handleAddressInfoMessage (out : Outside) (r : Nat) (externalIp internalIp : Option String) :
    Handler Unit := do
  let externalIp ← liftExcept (optionalAddress externalIp)
  let internalIp ← liftExcept (optionalAddress internalIp)
  setAddressInfo out r (externalIp, internalIp)

/-- `LoginServer.handle_server_info_message`. -/
def handleServerInfoMessage (out : Outside) (r : Nat) (description motd gameSettingMode : String)
    (passwordHash : Option (List Int)) : Handler Unit := do
  let passwordHash ← match passwordHash with
    | some xs => some <$> liftExcept (pyBytes xs)
    | none => pure none
  setInfo out r description motd gameSettingMode passwordHash

/-- `LoginServer.handle_map_info_message`. -/
def handleMapInfoMessage (r : Nat) (mapId : Int) : Handler Unit :=
  updateGameServer r fun g => { g with mapId := some mapId }

/-- One pair of `msg.player_to_team_id` in `LoginServer.handle_team_info_message`: the team of
the player the registry holds under `int(player_id)`, when that player is on game server `r`. -/
def setTeamOf (r : Nat) (playerId : String) (teamId : Int) : Handler Unit := do
  let some id := pyInt playerId | throw .valueError
  let s ← get
  match s.players.get? id with
  | some q => if (s.player q).gameServer = some r then updatePlayer q fun p => { p with team := some teamId }
  | none => pure ()

/-- `LoginServer.handle_team_info_message` from game server `r`. -/
def handleTeamInfoMessage (r : Nat) (playerToTeamId : List (String × Int)) : Handler Unit :=
  playerToTeamId.forM fun (playerId, teamId) => setTeamOf r playerId teamId

/-- `LoginServer.handle_score_info_message`. -/
def handleScoreInfoMessage (r : Nat) (beScore dsScore : Int) : Handler Unit := do
  updateGameServer r fun g => { g with beScore := some beScore }
  updateGameServer r fun g => { g with dsScore := some dsScore }

/-- `LoginServer.handle_match_time_message`. -/
def handleMatchTimeMessage (out : Outside) (r : Nat) (secondsRemaining : Int) (counting : Bool) :
    Handler Unit :=
  setMatchTime out r secondsRemaining counting

/-- `LoginServer.handle_server_ready_message`. -/
def handleServerReadyMessage (out : Outside) (r : Nat) (port : Option Int) : Handler Unit :=
  setReady out r port

/-- `LoginServer.handle_match_end_message`: a log line only. -/
def handleMatchEndMessage : Handler Unit := pure ()

end Taserver
