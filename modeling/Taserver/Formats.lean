import Taserver.PlayerInvariant
import Taserver.TeamInfo

/-! The parsers of the launcher's messages read back what Python writes. `int()` reads every
integer as `str()` writes it, so a team-info mapping whose ids were written by `str(unique_id)`
never raises and reaches exactly the players stored under those ids. `StrictVersion` reads every
version as `str()` writes it, pre-release tag included and with or without a final newline, so
`handle_launcher_protocol_version_message` disconnects a launcher exactly when the major versions
differ, and accepts the version it sends, `str(my_version)`, when a launcher reports it back.
`IPv4Address` reads every address as `str()` writes it, so the address-info event hands the game
server exactly the addresses the launcher sent. -/

namespace Taserver

/-! ### Decimal digits as `str()` writes them -/

/-- The decimal digits. -/
def decimalDigits : List Char := "0123456789".data

theorem digitChar_mem : ∀ m < 10, Nat.digitChar m ∈ decimalDigits := by decide

theorem digitChar_value : ∀ m < 10, (Nat.digitChar m).toNat - '0'.toNat = m := by decide

theorem decimalDigits_isDigit : ∀ c ∈ decimalDigits, c.isDigit = true := by decide

theorem decimalDigits_ascii : ∀ c ∈ decimalDigits, c.toNat < 127 ∧ isAsciiSpace c = false := by
  decide

theorem decimalDigits_not_sign : ∀ c ∈ decimalDigits, c ≠ '-' ∧ c ≠ '+' := by decide

theorem digitChar_eq_zero : ∀ m < 10, Nat.digitChar m = '0' → m = 0 := by decide

/-- `toDigitsCore` puts the digits of `n` before `ds` when its fuel exceeds `n`: no more of them
than `n` needs, and no leading zero unless `n` is 0. -/
theorem toDigitsCore_eq (fuel n : Nat) (ds : List Char) (hn : n < fuel) :
    ∃ l, Nat.toDigitsCore 10 fuel n ds = l ++ ds ∧ l ≠ [] ∧ (∀ c ∈ l, c ∈ decimalDigits) ∧
      digitsValue l = n ∧ (l.head? = some '0' → n = 0) ∧
      ∀ k, n < 10 ^ (k + 1) → l.length ≤ k + 1 := by
  induction fuel generalizing n ds with
  | zero => omega
  | succ fuel ih =>
    have hd := digitChar_mem (n % 10) (Nat.mod_lt _ (by omega))
    have hv := digitChar_value (n % 10) (Nat.mod_lt _ (by omega))
    by_cases h0 : n / 10 = 0
    · refine ⟨[Nat.digitChar (n % 10)], by simp [Nat.toDigitsCore, h0], by simp,
        by simpa using hd, ?_, fun h => ?_, fun _ _ => by simp⟩
      · simp only [digitsValue, List.foldl, hv]
        omega
      · have := digitChar_eq_zero (n % 10) (Nat.mod_lt _ (by omega)) (by simpa using h)
        omega
    · obtain ⟨l, hl, hne, hdig, hval, hhead, hlen⟩ :=
        ih (n / 10) (Nat.digitChar (n % 10) :: ds) (by omega)
      refine ⟨l ++ [Nat.digitChar (n % 10)], by simp [Nat.toDigitsCore, h0, hl], by simp,
        fun c hc => ?_, ?_, fun h => ?_, fun k hk => ?_⟩
      · rcases List.mem_append.1 hc with hc | hc
        · exact hdig c hc
        · simpa [List.mem_singleton.1 hc] using hd
      · simp only [digitsValue, List.foldl_append, List.foldl] at hval ⊢
        rw [hval, hv]
        omega
      · exact absurd (hhead (by rwa [List.head?_append_of_ne_nil _ hne] at h)) h0
      · cases k with
        | zero => omega
        | succ k =>
          have := hlen k ((Nat.div_lt_iff_lt_mul (by norm_num)).2 (by rwa [← pow_succ]))
          simp only [List.length_append, List.length_singleton]
          omega

/-- `str(n)` is a non-empty string of decimal digits whose value is `n`. -/
theorem toDigits_eq (n : Nat) :
    Nat.toDigits 10 n ≠ [] ∧ (∀ c ∈ Nat.toDigits 10 n, c ∈ decimalDigits) ∧
      digitsValue (Nat.toDigits 10 n) = n := by
  obtain ⟨l, hl, hne, hdig, hval, -⟩ := toDigitsCore_eq (n + 1) n [] (by omega)
  rw [Nat.toDigits, hl, List.append_nil]
  exact ⟨hne, hdig, hval⟩

theorem toString_data (n : Nat) : (toString n).data = Nat.toDigits 10 n := rfl

section Decimal

variable {l : List Char} (hd : ∀ c ∈ l, c ∈ decimalDigits)
include hd

theorem isDigits_of_decimal (hne : l ≠ []) : isDigits l = true := by
  simp only [isDigits, List.isEmpty_eq_false.2 hne, Bool.not_false, Bool.true_and, List.all_eq_true]
  exact fun c hc => decimalDigits_isDigit c (hd c hc)

theorem splitOn_of_decimal {sep : Char} (hsep : sep ∉ decimalDigits) : l.splitOn sep = [l] :=
  List.splitOnP_eq_single _ _ fun c hc h => hsep (beq_iff_eq.1 h ▸ hd c hc)

theorem splitOn_decimal_append {sep : Char} (hsep : sep ∉ decimalDigits) (rest : List Char) :
    (l ++ sep :: rest).splitOn sep = l :: rest.splitOn sep :=
  List.splitOnP_first (· == sep) _ (fun c hc h => hsep (beq_iff_eq.1 h ▸ hd c hc)) sep (by simp) _

end Decimal

/-! ### `int()` -/

theorem dropWhile_of_forall {p : Char → Bool} {l : List Char} (h : ∀ c ∈ l, p c = false) :
    l.dropWhile p = l := by
  cases l with
  | nil => rfl
  | cons c l => simp [List.dropWhile_cons, h c (List.mem_cons_self _ _)]

/-- `int()` keeps a string of characters below 127 as it is before it parses it. -/
theorem mapM_asciiForInt {l : List Char} (h : ∀ c ∈ l, c.toNat < 127) :
    l.mapM asciiForInt = some l := by
  induction l with
  | nil => rfl
  | cons c l ih =>
    rw [List.mapM_cons, ih fun c' hc' => h c' (List.mem_cons_of_mem _ hc')]
    simp [asciiForInt, h c (List.mem_cons_self _ _)]

/-- `int()` of an optional minus sign and a non-empty string of decimal digits. -/
theorem pyInt_digits (negative : Bool) {l : List Char} (hne : l ≠ [])
    (hd : ∀ c ∈ l, c ∈ decimalDigits) :
    pyInt ⟨(if negative then ['-'] else []) ++ l⟩ =
      some (if negative then -(digitsValue l : Int) else digitsValue l) := by
  have hascii : ∀ c ∈ (if negative then ['-'] else []) ++ l, c.toNat < 127 ∧ isAsciiSpace c = false :=
    fun c hc => by
      rcases List.mem_append.1 hc with hc | hc
      · cases negative <;> simp_all [isAsciiSpace]
      · exact decimalDigits_ascii c (hd c hc)
  have htrim : (((if negative then ['-'] else []) ++ l).dropWhile isAsciiSpace).reverse.dropWhile
      isAsciiSpace = ((if negative then ['-'] else []) ++ l).reverse := by
    rw [dropWhile_of_forall fun c hc => (hascii c hc).2,
      dropWhile_of_forall fun c hc => (hascii c (List.mem_reverse.1 hc)).2]
  have hsplit := splitOn_of_decimal hd (show '_' ∉ decimalDigits by decide)
  have hdig := isDigits_of_decimal hd hne
  simp only [pyInt, mapM_asciiForInt fun c hc => (hascii c hc).1, Option.some_bind, parseAsciiInt,
    htrim, List.reverse_reverse]
  cases negative
  · obtain ⟨c, l', rfl⟩ := List.exists_cons_of_ne_nil hne
    obtain ⟨hm, hp⟩ := decimalDigits_not_sign c (hd c (List.mem_cons_self _ _))
    split <;> simp_all
  · simp [hsplit, hdig]

/-- `int(str(k)) == k` for every integer. -/
theorem pyInt_toString (k : Int) : pyInt (toString k) = some k := by
  cases k with
  | ofNat n =>
    obtain ⟨hne, hd, hv⟩ := toDigits_eq n
    rw [show toString (Int.ofNat n) = ⟨(if false then ['-'] else []) ++ Nat.toDigits 10 n⟩ from rfl,
      pyInt_digits false hne hd, hv]
    rfl
  | negSucc n =>
    obtain ⟨hne, hd, hv⟩ := toDigits_eq (n + 1)
    rw [show toString (Int.negSucc n) = ⟨(if true then ['-'] else []) ++ Nat.toDigits 10 (n + 1)⟩
      from rfl, pyInt_digits true hne hd, hv]
    simp [Int.negSucc_eq]

/-! ### `StrictVersion` -/

/-- The characters of a version before its pre-release tag. -/
def IsVersionChar (c : Char) : Prop := c ∈ decimalDigits ∨ c = '.'

theorem isVersionChar_append {l rest : List Char} (hl : ∀ c ∈ l, c ∈ decimalDigits)
    (hrest : ∀ c ∈ rest, IsVersionChar c) : ∀ c ∈ l ++ '.' :: rest, IsVersionChar c := fun c hc => by
  rcases List.mem_append.1 hc with hc | hc
  · exact .inl (hl c hc)
  · rcases List.mem_cons.1 hc with rfl | hc
    · exact .inr rfl
    · exact hrest c hc

/-- `StrictVersion` splits a version at the first `a` or `b`, where its tag begins. -/
theorem span_versionChars {l tag : List Char} (hl : ∀ c ∈ l, IsVersionChar c)
    (htag : ∀ c ∈ tag.head?, c = 'a' ∨ c = 'b') :
    (l ++ tag).span (fun c => decide (c ≠ 'a') && decide (c ≠ 'b')) = (l, tag) := by
  have h : ∀ c ∈ l, (decide (c ≠ 'a') && decide (c ≠ 'b')) = true := fun c hc => by
    rcases hl c hc with h | rfl
    · have hab : c ≠ 'a' ∧ c ≠ 'b' :=
        ⟨fun e => absurd (e ▸ h) (by decide), fun e => absurd (e ▸ h) (by decide)⟩
      simp [hab]
    · decide
  rw [List.span_eq_take_drop, List.takeWhile_append_of_pos h, List.dropWhile_append_of_pos h]
  rcases tag with _ | ⟨c, tag⟩
  · simp
  · rcases htag c rfl with rfl | rfl <;> simp

/-- The characters of a pre-release tag as `str()` writes it. -/
def prereleaseChars : Option (PrereleaseTag × Nat) → List Char
  | none => []
  | some (tag, n) => tag.letter :: Nat.toDigits 10 n

theorem prereleaseOf_prereleaseChars (pre : Option (PrereleaseTag × Nat)) :
    prereleaseOf (prereleaseChars pre) = some pre := by
  rcases pre with _ | ⟨tag, n⟩
  · rfl
  obtain ⟨hne, hd, hv⟩ := toDigits_eq n
  cases tag <;> simp [prereleaseChars, prereleaseOf, PrereleaseTag.letter, isDigits_of_decimal hd hne, hv]

/-- The characters of `str(v)`: the numbers of the version with dots, then its tag. -/
theorem versionString_data (v : StrictVersion) :
    (versionString v).data =
      (if v.version.2.2 = 0 then Nat.toDigits 10 v.version.1 ++ '.' :: Nat.toDigits 10 v.version.2.1
        else Nat.toDigits 10 v.version.1 ++ '.' ::
          (Nat.toDigits 10 v.version.2.1 ++ '.' :: Nat.toDigits 10 v.version.2.2)) ++
        prereleaseChars v.prerelease := by
  have hdot : ".".data = ['.'] := rfl
  obtain ⟨⟨a, b, c⟩, _ | ⟨tag, n⟩⟩ := v <;> by_cases hc : c = 0 <;>
    simp [versionString, prereleaseChars, hc, String.data_append, hdot, toString_data]

/-- `$` lets a final newline through: it is dropped from a string that has no other. -/
theorem dropFinalNewline {l : List Char} (hl : '\n' ∉ l) (newline : Bool) :
    (if (l ++ if newline then ['\n'] else []).getLast? = some '\n' then
      (l ++ if newline then ['\n'] else []).dropLast else l ++ if newline then ['\n'] else []) = l := by
  cases newline
  · simpa using fun h => absurd (List.mem_of_getLast?_eq_some h) hl
  · simp

/-- `StrictVersion(str(v))` is `v` for every version, with or without a final newline. -/
theorem strictVersion_versionString (v : StrictVersion) (newline : Bool) :
    strictVersion (versionString v ++ if newline then "\n" else "") = some v := by
  obtain ⟨⟨a, b, c⟩, pre⟩ := v
  obtain ⟨ha, hda, hva⟩ := toDigits_eq a
  obtain ⟨hb, hdb, hvb⟩ := toDigits_eq b
  obtain ⟨hc, hdc, hvc⟩ := toDigits_eq c
  have hdot : '.' ∉ decimalDigits := by decide
  have htag : ∀ ch ∈ (prereleaseChars pre).head?, ch = 'a' ∨ ch = 'b' := by
    rcases pre with _ | ⟨_ | _, _⟩ <;> simp [prereleaseChars, PrereleaseTag.letter]
  have hnl : ∀ {main : List Char}, (∀ ch ∈ main, IsVersionChar ch) →
      '\n' ∉ main ++ prereleaseChars pre := fun hmain h => by
    rcases List.mem_append.1 h with h | h
    · rcases hmain _ h with h | h <;> revert h <;> decide
    · rcases pre with _ | ⟨tag, n⟩
      · exact List.not_mem_nil _ h
      · rcases List.mem_cons.1 h with h | h
        · cases tag <;> revert h <;> decide
        · exact absurd ((toDigits_eq n).2.1 _ h) (by decide)
  have hdata : (versionString ⟨(a, b, c), pre⟩ ++ if newline then "\n" else "").data =
      (versionString ⟨(a, b, c), pre⟩).data ++ if newline then ['\n'] else [] := by
    cases newline <;> simp [String.data_append]
  unfold strictVersion
  rw [hdata, versionString_data]
  dsimp only
  by_cases h0 : c = 0
  · subst h0
    have hmain := isVersionChar_append hda fun ch hch => .inl (hdb ch hch)
    rw [if_pos rfl, dropFinalNewline (hnl hmain), span_versionChars hmain htag]
    simp [prereleaseOf_prereleaseChars, splitOn_decimal_append hda hdot, splitOn_of_decimal hdb hdot,
      isDigits_of_decimal hda ha, isDigits_of_decimal hdb hb, hva, hvb]
  · have hmain := isVersionChar_append hda (isVersionChar_append hdb fun ch hch => .inl (hdc ch hch))
    rw [if_neg h0, dropFinalNewline (hnl hmain), span_versionChars hmain htag]
    simp [prereleaseOf_prereleaseChars, splitOn_decimal_append hda hdot,
      splitOn_decimal_append hdb hdot, splitOn_of_decimal hdc hdot, isDigits_of_decimal hda ha,
      isDigits_of_decimal hdb hb, isDigits_of_decimal hdc hc, hva, hvb, hvc]

/-! ### `IPv4Address` -/

/-- `str(n)` of a number up to 255 is an octet as `IPv4Address` reads it. -/
theorem isOctet_toDigits {n : Nat} (hn : n ≤ 255) : isOctet (Nat.toDigits 10 n) = true := by
  obtain ⟨l, hl, hne, hdig, hval, hhead, hlen⟩ := toDigitsCore_eq (n + 1) n [] (by omega)
  rw [Nat.toDigits, hl, List.append_nil]
  have h3 := hlen 2 (by norm_num; omega)
  have h1 : l.length = 1 ∨ l.head? ≠ some '0' := by
    by_cases h : l.head? = some '0'
    · have := hlen 0 (by have := hhead h; omega)
      exact .inl (by have := List.length_pos.2 hne; omega)
    · exact .inr h
  simp [isOctet, isDigits_of_decimal hdig hne, h3, hval, hn, h1]

/-- `str(IPv4Address)`: the octets in decimal, separated by dots. -/
def ipv4String (a : IPv4) : String := ".".intercalate (a.map toString)

/-- Four octets, each at most 255. -/
def IPv4.WellFormed (a : IPv4) : Prop := a.length = 4 ∧ ∀ x ∈ a, x ≤ 255

instance : DecidablePred IPv4.WellFormed := fun _ => inferInstanceAs (Decidable (_ ∧ _))

/-- `IPv4Address(str(a)) == a` for every address. -/
theorem ipv4Address_ipv4String {a : IPv4} (ha : a.WellFormed) : ipv4Address (ipv4String a) = some a := by
  obtain ⟨hlen, hoct⟩ := ha
  rcases a with _ | ⟨a₀, _ | ⟨a₁, _ | ⟨a₂, _ | ⟨a₃, _ | ⟨_, _⟩⟩⟩⟩⟩ <;>
    simp only [List.length_cons, List.length_nil, Nat.reduceEqDiff, reduceCtorEq] at hlen
  simp only [List.mem_cons, List.mem_singleton, forall_eq_or_imp, forall_eq] at hoct
  have hdot : '.' ∉ decimalDigits := by decide
  have hdotData : ".".data = ['.'] := by decide
  have hdata : (ipv4String [a₀, a₁, a₂, a₃]).data = Nat.toDigits 10 a₀ ++ '.' ::
      (Nat.toDigits 10 a₁ ++ '.' :: (Nat.toDigits 10 a₂ ++ '.' :: Nat.toDigits 10 a₃)) := by
    simp [ipv4String, String.intercalate, String.intercalate.go, String.data_append, hdotData,
      toString_data]
  unfold ipv4Address
  rw [hdata, splitOn_decimal_append (toDigits_eq a₀).2.1 hdot,
    splitOn_decimal_append (toDigits_eq a₁).2.1 hdot, splitOn_decimal_append (toDigits_eq a₂).2.1 hdot,
    splitOn_of_decimal (toDigits_eq a₃).2.1 hdot]
  simp [isOctet_toDigits, hoct, (toDigits_eq _).2.2]

/-! ### The launcher's messages as the launcher writes them -/

/-- A string that `StrictVersion` reads is not empty. -/
theorem isEmpty_of_strictVersion {version : String} {v : StrictVersion}
    (h : strictVersion version = some v) : version.isEmpty = false := by
  rw [Bool.eq_false_iff, ne_eq, String.isEmpty_iff]
  rintro rfl
  cases h

/-- The version handler on a string that `StrictVersion` reads: a launcher whose major version
differs is sent the server's version and then disconnected, each call made only if the one before
returned. -/
theorem handleLauncherProtocolVersionMessage_of_strictVersion (cfg : Config) (out : Outside)
    (r : Nat) {version : String} {v : StrictVersion} (h : strictVersion version = some v)
    (s : LoginServer) :
    let reply := Call.send (.gameServer r) (.protocolVersion (versionString cfg.protocolVersion))
    let bye := Call.disconnect (.gameServer r)
    handleLauncherProtocolVersionMessage cfg out r version s =
      if cfg.protocolVersion.version.1 = v.version.1 then .ok () s
      else if out.raises reply then .error (.external reply) s
      else if out.raises bye then .error (.external bye) (s.record [reply])
      else .ok () (s.record [reply, bye]) := by
  intro reply bye
  simp only [handleLauncherProtocolVersionMessage, isEmpty_of_strictVersion h, h]
  by_cases hv : cfg.protocolVersion.version.1 = v.version.1
  · simp [hv]
  · by_cases hr : out.raises reply <;> by_cases hb : out.raises bye <;> simp [hv, hr, hb, reply, bye]

/-- A launcher that reports the version `str(v)` of any `StrictVersion`, with or without a final
newline, is told the login server's version and disconnected exactly when the major versions
differ; the version the login server sends it, reported back, is accepted with no call. -/
theorem launcher_version_handshake (cfg : Config) (out : Outside) (r : Nat) (v : StrictVersion)
    (newline : Bool) (s : LoginServer) :
    let reply := Call.send (.gameServer r) (.protocolVersion (versionString cfg.protocolVersion))
    let bye := Call.disconnect (.gameServer r)
    handleLauncherProtocolVersionMessage cfg out r
        (versionString v ++ if newline then "\n" else "") s =
      (if cfg.protocolVersion.version.1 = v.version.1 then .ok () s
        else if out.raises reply then .error (.external reply) s
        else if out.raises bye then .error (.external bye) (s.record [reply])
        else .ok () (s.record [reply, bye])) ∧
    handleLauncherProtocolVersionMessage cfg out r (versionString cfg.protocolVersion) s =
      .ok () s := by
  have hself : strictVersion (versionString cfg.protocolVersion) = some cfg.protocolVersion := by
    simpa using strictVersion_versionString cfg.protocolVersion false
  refine ⟨handleLauncherProtocolVersionMessage_of_strictVersion cfg out r
    (strictVersion_versionString v newline) s, ?_⟩
  rw [handleLauncherProtocolVersionMessage_of_strictVersion cfg out r hself s, if_pos rfl]

/-- A team-info id as the launcher writes it, `str(k)`, is read back as `k`. -/
theorem mem_writtenIds {pairs : List (Int × Int)} {playerId : String} {teamId : Int}
    (h : (playerId, teamId) ∈ pairs.map fun p => (toString p.1, p.2)) :
    ∃ k, (k, teamId) ∈ pairs ∧ pyInt playerId = some k := by
  obtain ⟨⟨k, t⟩, hk, he⟩ := List.mem_map.1 h
  simp only [Prod.mk.injEq] at he
  exact ⟨k, he.2 ▸ hk, he.1 ▸ pyInt_toString k⟩

/-- An optional address as the launcher writes it, `str(ip)` or `None`, is read back. -/
theorem optionalAddress_map {ip : Option IPv4} (h : ∀ a ∈ ip, a.WellFormed) :
    optionalAddress (ip.map ipv4String) = .ok ip := by
  rcases ip with _ | a
  · rfl
  have ha := ipv4Address_ipv4String (h a rfl)
  have hne : (ipv4String a).isEmpty = false := by
    rw [Bool.eq_false_iff, ne_eq, String.isEmpty_iff]
    intro he
    have h0 : ipv4Address "" = none := by decide
    rw [he, h0] at ha
    cases ha
  simp [optionalAddress, hne, ha]

end Taserver
