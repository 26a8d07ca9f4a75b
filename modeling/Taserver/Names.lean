import Mathlib.Data.List.Range
import Mathlib.Data.Nat.Digits
import Mathlib.Data.String.Basic

/-! User names and display names: `LoginServer.validate_username` and `choose_display_name` of the
unauthenticated state. A registered player's display name is the login name cut to
`max_name_length`; a guest's is the first of `unvrf-t`, `unv02-t`, `unv03-t`, ... that is not in
use, where `t` is the login name cut to six characters less. The loop's `assert index < 100` stops
it after `unv98-t`: it forms `unv99-t` and fails before it looks at it. -/

namespace Taserver

/-- The constants of `Player` and the helper of `utils` that `validate_username` reads. player.py
and utils.py are not under src/, so they are parameters of the model. -/
structure NameRules where
  minNameLength : Nat
  maxNameLength : Nat
  isValidAsciiForName : List UInt8 → Bool

/-- `username.encode('ascii')`: `none` is the `UnicodeError` of a character past ASCII. -/
def encodeAscii (username : String) : Option (List UInt8) :=
  if username.data.all (fun c => c.toNat < 128) then
    some (username.data.map fun c => c.toNat.toUInt8)
  else none

/-- `LoginServer.validate_username`: `none` when the name is accepted, else the reason. -/
def validateUsername (rules : NameRules) (username : String) : Option String :=
  if username.length < rules.minNameLength then
    some ("User name is too short, min length is " ++ toString rules.minNameLength ++
      " characters.")
  else if username.length > rules.maxNameLength then
    some ("User name is too long, max length is " ++ toString rules.maxNameLength ++
      " characters.")
  else
    match encodeAscii username with
    | none => some "User name contains invalid (i.e. non-ascii) characters"
    | some asciiBytes =>
      if !rules.isValidAsciiForName asciiBytes then some "User name contains invalid characters"
      else none

/-- An accepted name is no longer than `max_name_length`. -/
theorem length_le_of_validateUsername {rules : NameRules} {username : String}
    (h : validateUsername rules username = none) : username.length ≤ rules.maxNameLength := by
  unfold validateUsername at h
  split at h
  · cases h
  · split at h
    · cases h
    · omega

/-- Python's `s[:stop]`: the first `stop` characters, and for a negative `stop` all but the last
`-stop`. -/
def sliceTo (s : String) (stop : Int) : String :=
  ⟨s.data.take (if 0 ≤ stop then stop.toNat else (s.length + stop).toNat)⟩

theorem sliceTo_of_length_le {s : String} {n : Nat} (h : s.length ≤ n) : sliceTo s n = s := by
  simp only [sliceTo, Int.ofNat_nonneg, ↓reduceIte, Int.toNat_ofNat]
  exact congrArg String.mk (List.take_of_length_le h)

/-- `'%02d' % n`: the decimal digits of `n`, with zeros in front up to two characters. -/
def zeroPad2 (n : Nat) : String :=
  let digits := toString n
  "".pushn '0' (2 - digits.length) ++ digits

/-- `'unv%02d-%s' % (index, t)`. -/
def unvCandidate (index : Nat) (t : String) : String := "unv" ++ zeroPad2 index ++ "-" ++ t

/-- The `while` loop of `choose_display_name` from the current `displayName`, with `index` the
number of the next candidate. `left` is `99 - index`: with `left = 0` a name in use makes the loop
form `unv99-t` and fail `assert index < 100`, which is `none`. -/
def chooseLoop (namesInUse : List String) (t : String) (index : Nat) (displayName : String) :
    Nat → Option String
  | 0 => if displayName ∈ namesInUse then none else some displayName
  | left + 1 =>
    if displayName ∈ namesInUse then
      chooseLoop namesInUse t (index + 1) (unvCandidate index t) left
    else some displayName

/-- `choose_display_name`; `none` is the failed assertion of its loop. -/
def chooseDisplayName (loginName : String) (registered : Bool) (namesInUse : List String)
    (maxNameLength : Nat) : Option String :=
  if registered then some (sliceTo loginName maxNameLength)
  else
    let guestPrefix := "unvrf-"
    let t := sliceTo loginName (maxNameLength - guestPrefix.length : Int)
    chooseLoop namesInUse t 2 (guestPrefix ++ t) (99 - 2)

@[simp] theorem length_guestPrefix : "unvrf-".length = 6 := rfl

/-- The guest candidates in the order the loop tries them, numbered from 1: `unvrf-t` first, then
`unv02-t`, `unv03-t`, and so on (spec 4.3, the display-name collision algorithm). -/
def guestCandidate (t : String) (j : Nat) : String :=
  if j ≤ 1 then "unvrf-" ++ t else unvCandidate j t

/-! ### The loop -/

section Loop

variable {namesInUse : List String} {t : String}

theorem chooseLoop_eq_none_iff {index : Nat} {displayName : String} {left : Nat} :
    chooseLoop namesInUse t index displayName left = none ↔
      displayName ∈ namesInUse ∧ ∀ i < left, unvCandidate (index + i) t ∈ namesInUse := by
  induction left generalizing index displayName with
  | zero => by_cases h : displayName ∈ namesInUse <;> simp [chooseLoop, h]
  | succ left ih =>
    by_cases h : displayName ∈ namesInUse
    · simp only [chooseLoop, h, ↓reduceIte, ih, true_and]
      constructor
      · rintro ⟨h0, hrest⟩ i hi
        rcases i with _ | i
        · exact h0
        · simpa [Nat.add_right_comm, Nat.add_assoc] using hrest i (by omega)
      · intro hall
        exact ⟨by simpa using hall 0 (by omega), fun i hi => by
          simpa [Nat.add_right_comm, Nat.add_assoc] using hall (i + 1) (by omega)⟩
    · simp [chooseLoop, h]

/-- When the loop returns, it returns the first name it forms that is not in use. -/
theorem chooseLoop_eq_some {index : Nat} {displayName : String} {left : Nat} {d : String}
    (h : chooseLoop namesInUse t index displayName left = some d) :
    (d = displayName ∧ displayName ∉ namesInUse) ∨
      (displayName ∈ namesInUse ∧ ∃ i < left, d = unvCandidate (index + i) t ∧ d ∉ namesInUse ∧
        ∀ i' < i, unvCandidate (index + i') t ∈ namesInUse) := by
  induction left generalizing index displayName with
  | zero =>
    by_cases hd : displayName ∈ namesInUse <;> simp_all [chooseLoop]
  | succ left ih =>
    by_cases hd : displayName ∈ namesInUse
    · simp only [chooseLoop, hd, ↓reduceIte] at h
      refine .inr ⟨hd, ?_⟩
      rcases ih h with ⟨rfl, hfree⟩ | ⟨hin, i, hi, rfl, hfree, hbefore⟩
      · exact ⟨0, by omega, by simp, hfree, fun _ h => absurd h (by omega)⟩
      · refine ⟨i + 1, by omega, by simp [Nat.add_right_comm, Nat.add_assoc], hfree, ?_⟩
        rintro (_ | i') hi'
        · simpa using hin
        · simpa [Nat.add_right_comm, Nat.add_assoc] using hbefore i' (by omega)
    · simp only [chooseLoop, hd, ↓reduceIte, Option.some.injEq] at h
      exact .inl ⟨h.symm, hd⟩

end Loop

/-! ### `choose_display_name` -/

@[simp] theorem chooseDisplayName_registered (loginName : String) (namesInUse : List String)
    (maxNameLength : Nat) :
    chooseDisplayName loginName true namesInUse maxNameLength =
      some (sliceTo loginName maxNameLength) := rfl

/-- A guest's display name is the first candidate not in use. -/
theorem chooseDisplayName_guest {loginName : String} {namesInUse : List String}
    {maxNameLength : Nat} {d : String}
    (h : chooseDisplayName loginName false namesInUse maxNameLength = some d) :
    let t := sliceTo loginName (maxNameLength - 6 : Int)
    ∃ j, 1 ≤ j ∧ d = guestCandidate t j ∧ d ∉ namesInUse ∧
      ∀ i, 1 ≤ i → i < j → guestCandidate t i ∈ namesInUse := by
  simp only [chooseDisplayName, Bool.false_eq_true, ↓reduceIte, length_guestPrefix] at h
  rcases chooseLoop_eq_some h with ⟨rfl, hfree⟩ | ⟨hin, i, _, rfl, hfree, hbefore⟩
  · exact ⟨1, le_refl 1, by simp [guestCandidate], hfree, fun i h1 h2 => absurd h2 (by omega)⟩
  · refine ⟨i + 2, by omega, by simp [guestCandidate, Nat.add_comm], hfree, fun i' h1 h2 => ?_⟩
    rcases (show i' = 1 ∨ 2 ≤ i' by omega) with rfl | h2'
    · simpa [guestCandidate] using hin
    · obtain ⟨k, rfl⟩ : ∃ k, i' = k + 2 := ⟨i' - 2, by omega⟩
      simpa [guestCandidate, Nat.add_comm] using hbefore k (by omega)

/-- A guest's display name is the first candidate not in use, for every login name and every set
of names in use; a registered player's is the cut login name, whatever is in use. -/
theorem chooseDisplayName_first_free (loginName : String) (namesInUse : List String)
    (maxNameLength : Nat) :
    (∀ d, chooseDisplayName loginName false namesInUse maxNameLength = some d →
      let t := sliceTo loginName (maxNameLength - 6 : Int)
      ∃ j, 1 ≤ j ∧ d = guestCandidate t j ∧ d ∉ namesInUse ∧
        ∀ i, 1 ≤ i → i < j → guestCandidate t i ∈ namesInUse) ∧
      chooseDisplayName loginName true namesInUse maxNameLength =
        some (sliceTo loginName maxNameLength) :=
  ⟨fun _ => chooseDisplayName_guest, rfl⟩

/-- With `unvrf-bob` in use, a guest logging in as `bob` gets the second candidate, `unv02-bob`. -/
theorem bob_gets_second_candidate :
    chooseDisplayName "bob" false ["unvrf-bob"] 15 = some "unv02-bob" ∧
      let t := sliceTo "bob" ((15 : Nat) - 6 : Int)
      ∃ j, 1 ≤ j ∧ "unv02-bob" = guestCandidate t j ∧ "unv02-bob" ∉ ["unvrf-bob"] ∧
        ∀ i, 1 ≤ i → i < j → guestCandidate t i ∈ ["unvrf-bob"] :=
  have h : chooseDisplayName "bob" false ["unvrf-bob"] 15 = some "unv02-bob" := by decide
  ⟨h, (chooseDisplayName_first_free "bob" ["unvrf-bob"] 15).1 _ h⟩

theorem chooseDisplayName_not_mem {loginName : String} {namesInUse : List String}
    {maxNameLength : Nat} {d : String}
    (h : chooseDisplayName loginName false namesInUse maxNameLength = some d) :
    d ∉ namesInUse :=
  (chooseDisplayName_guest h).elim fun _ ⟨_, _, hfree, _⟩ => hfree

/-- The guest loop fails exactly when the 98 candidates `unvrf-t`, `unv02-t`, ..., `unv98-t` are
all in use: `unv99-t` is formed but never looked at. -/
theorem chooseDisplayName_eq_none_iff (loginName : String) (namesInUse : List String)
    (maxNameLength : Nat) :
    chooseDisplayName loginName false namesInUse maxNameLength = none ↔
      ∀ j, 1 ≤ j → j ≤ 98 →
        guestCandidate (sliceTo loginName (maxNameLength - 6 : Int)) j ∈ namesInUse := by
  simp only [chooseDisplayName, Bool.false_eq_true, ↓reduceIte, chooseLoop_eq_none_iff,
    length_guestPrefix]
  constructor
  · rintro ⟨h1, hrest⟩ j hj1 hj98
    rcases (show j = 1 ∨ 2 ≤ j by omega) with rfl | hj2
    · simpa [guestCandidate] using h1
    · obtain ⟨k, rfl⟩ : ∃ k, j = k + 2 := ⟨j - 2, by omega⟩
      simpa [guestCandidate, Nat.add_comm] using hrest k (by omega)
  · intro hall
    exact ⟨by simpa [guestCandidate] using hall 1 le_rfl (by omega), fun i hi => by
      simpa [guestCandidate, Nat.add_comm] using hall (i + 2) (by omega) (by omega)⟩

/-! ### Lengths -/

/-- `'%02d' % index` is two characters for an index below 100. -/
theorem length_zeroPad2 {n : Nat} (h : n < 100) : (zeroPad2 n).length = 2 := by
  have hle : (toString n).length ≤ 2 := Nat.repr_length n 2 (by decide) h
  simp only [zeroPad2, String.length_append, String.length_pushn, String.length_empty]
  omega

theorem length_unvCandidate {index : Nat} (h : index < 100) (t : String) :
    (unvCandidate index t).length = 6 + t.length := by
  simp only [unvCandidate, String.length_append, length_zeroPad2 h]
  rfl

theorem length_sliceTo {s : String} {stop : Int} (h : 0 ≤ stop) :
    (sliceTo s stop).length = min stop.toNat s.length := by
  simp only [sliceTo, h, ↓reduceIte, String.length_mk, List.length_take]
  rfl

/-- Every guest name the loop returns is six characters longer than the cut login name: the loop
returns no index past 98. -/
theorem chooseDisplayName_guest_length {loginName : String} {namesInUse : List String}
    {maxNameLength : Nat} {d : String}
    (h : chooseDisplayName loginName false namesInUse maxNameLength = some d) :
    d.length = 6 + (sliceTo loginName (maxNameLength - 6 : Int)).length := by
  simp only [chooseDisplayName, Bool.false_eq_true, ↓reduceIte, length_guestPrefix] at h
  rcases chooseLoop_eq_some h with ⟨rfl, -⟩ | ⟨-, i, hi, rfl, -⟩
  · simp
  · exact length_unvCandidate (by omega) _

/-- For `max_name_length ≥ 6`, every display name is at most `max_name_length` long, and a guest's
is `6 + min(len(login_name), max_name_length - 6)` long, for every login name and every set of
names in use. -/
theorem chooseDisplayName_length (loginName : String) (registered : Bool)
    (namesInUse : List String) (maxNameLength : Nat) (hmax : 6 ≤ maxNameLength) (d : String)
    (h : chooseDisplayName loginName registered namesInUse maxNameLength = some d) :
    d.length ≤ maxNameLength ∧
      (registered = false → d.length = 6 + min loginName.length (maxNameLength - 6)) := by
  cases registered with
  | true =>
    obtain rfl := Option.some.inj h
    rw [length_sliceTo (by omega)]
    exact ⟨by omega, fun h => by cases h⟩
  | false =>
    have hstop : ((maxNameLength : Int) - 6).toNat = maxNameLength - 6 := by omega
    rw [chooseDisplayName_guest_length h, length_sliceTo (by omega), hstop]
    exact ⟨by omega, fun _ => by rw [Nat.min_comm]⟩

/-- A seventeen-letter login name whose `unvrf-` form is taken gets `unv02-` and its first nine
letters: fifteen characters. -/
theorem long_guest_name_length :
    chooseDisplayName "abcdefghijklmnopq" false ["unvrf-abcdefghi"] 15 = some "unv02-abcdefghi" ∧
      "unv02-abcdefghi".length = 6 + min "abcdefghijklmnopq".length (15 - 6) :=
  have h : chooseDisplayName "abcdefghijklmnopq" false ["unvrf-abcdefghi"] 15 =
      some "unv02-abcdefghi" := by decide
  ⟨h, (chooseDisplayName_length _ false _ 15 (by decide) _ h).2 rfl⟩

/-- The names `unvrf-bob`, `unv02-bob`, ..., `unv98-bob`: every candidate but `unv99-bob`. -/
def firstGuestNamesOfBob : List String := (List.range 98).map fun j => guestCandidate "bob" (j + 1)

/-- With `unv99-bob` free, `choose_display_name` still fails its assertion. -/
theorem chooseDisplayName_bob_fails_with_unv99_free :
    "unv99-bob" ∉ firstGuestNamesOfBob ∧
      chooseDisplayName "bob" false firstGuestNamesOfBob 15 = none := by
  have ht : sliceTo "bob" ((15 : Nat) - 6 : Int) = "bob" := by decide
  refine ⟨by decide, (chooseDisplayName_eq_none_iff _ _ _).2 fun j h1 h98 => ?_⟩
  rw [ht]
  exact List.mem_map.2 ⟨j - 1, List.mem_range.2 (by omega), by rw [Nat.sub_add_cancel h1]⟩

end Taserver
