import Mathlib.Data.List.Nodup

/-! A Python `dict` as the login server uses its registries `players` and `game_servers`: the items
in insertion order, each key at most once. `d[k] = v` replaces the value of a present key in place
and appends a new key; `del d[k]` and `d.pop(k)` remove the item of `k`. Every operation is
described by the items it holds (`mem_setItem`, `mem_erase`), and later proofs use only these. -/

namespace Taserver

/-- A Python `dict`: its items in insertion order, no key twice. -/
structure Dict (κ α : Type) where
  items : List (κ × α)
  nodup : (items.map Prod.fst).Nodup

namespace Dict

variable {κ α : Type}

/-- `{}`. -/
def empty : Dict κ α := ⟨[], List.nodup_nil⟩

/-- `d.keys()`, in insertion order. -/
def keys (d : Dict κ α) : List κ := d.items.map Prod.fst

/-- `d.values()`, in insertion order. -/
def values (d : Dict κ α) : List α := d.items.map Prod.snd

@[simp] theorem items_empty : (empty : Dict κ α).items = [] := rfl

theorem mem_keys {d : Dict κ α} {k : κ} : k ∈ d.keys ↔ ∃ v, (k, v) ∈ d.items := by
  simp [keys]

theorem mem_values {d : Dict κ α} {v : α} : v ∈ d.values ↔ ∃ k, (k, v) ∈ d.items := by
  simp [values]

theorem mem_keys_of_mem {d : Dict κ α} {k : κ} {v : α} (h : (k, v) ∈ d.items) : k ∈ d.keys :=
  mem_keys.2 ⟨v, h⟩

theorem mem_values_of_mem {d : Dict κ α} {k : κ} {v : α} (h : (k, v) ∈ d.items) : v ∈ d.values :=
  mem_values.2 ⟨k, h⟩

/-- A key has one value. -/
theorem eq_of_mem {d : Dict κ α} {k : κ} {v w : α} (hv : (k, v) ∈ d.items)
    (hw : (k, w) ∈ d.items) : v = w := by
  obtain ⟨items, nodup⟩ := d
  induction items with
  | nil => simp at hv
  | cons e items ih =>
    simp only [List.map_cons, List.nodup_cons, List.mem_map] at nodup
    simp only [List.mem_cons] at hv hw
    rcases hv with rfl | hv <;> rcases hw with h | hw
    · exact (Prod.mk.inj h).2.symm
    · exact absurd ⟨_, hw, rfl⟩ nodup.1
    · exact absurd ⟨_, hv, by rw [← h]⟩ nodup.1
    · exact ih nodup.2 hv hw

/-- Values that name their keys through an injective map are distinct. -/
theorem nodup_values_of_keyed {β : Type} (d : Dict κ α) (key : α → β) {f : κ → β}
    (hf : Function.Injective f) (hk : ∀ k v, (k, v) ∈ d.items → key v = f k) : d.values.Nodup := by
  refine List.Nodup.of_map key ?_
  have h : d.values.map key = d.keys.map f := by
    simp only [values, keys, List.map_map]
    exact List.map_congr_left fun kv hkv => hk kv.1 kv.2 hkv
  rw [h]
  exact d.nodup.map hf

variable [DecidableEq κ]

/-- `d.get(k)`: the value of key `k`. -/
def get? (d : Dict κ α) (k : κ) : Option α := d.items.lookup k

/-- `d[k] = v`. -/
def setItem (d : Dict κ α) (k : κ) (v : α) : Dict κ α :=
  if h : k ∈ d.keys then
    ⟨d.items.map (fun e => if e.1 = k then (k, v) else e), by
      have : Prod.fst ∘ (fun e : κ × α => if e.1 = k then (k, v) else e) = Prod.fst := by
        funext e; simp only [Function.comp]; split <;> simp_all
      simpa only [List.map_map, this] using d.nodup⟩
  else
    ⟨d.items ++ [(k, v)], by
      simpa [List.nodup_append] using ⟨d.nodup, fun w hw => h (mem_keys_of_mem hw)⟩⟩

/-- `del d[k]` for a present key `k`, and the removal done by `d.pop(k)`. -/
def erase (d : Dict κ α) (k : κ) : Dict κ α :=
  ⟨d.items.filter (fun e => e.1 ≠ k), d.nodup.sublist ((List.filter_sublist _).map _)⟩

@[simp] theorem get?_eq_some {d : Dict κ α} {k : κ} {v : α} :
    d.get? k = some v ↔ (k, v) ∈ d.items := by
  obtain ⟨items, nodup⟩ := d
  induction items with
  | nil => simp [get?]
  | cons e items ih =>
    obtain ⟨k', v'⟩ := e
    simp only [List.map_cons, List.nodup_cons, List.mem_map] at nodup
    by_cases hk : k = k'
    · subst hk
      simp only [get?, List.lookup_cons_self, Option.some.injEq, List.mem_cons, Prod.mk.injEq,
        true_and]
      exact ⟨fun h => .inl h.symm, fun h => h.elim Eq.symm fun h' =>
        absurd ⟨_, h', rfl⟩ nodup.1⟩
    · have hb : (k == k') = false := by simpa using hk
      simpa [get?, List.lookup_cons, hb, hk] using ih nodup.2

@[simp] theorem get?_eq_none {d : Dict κ α} {k : κ} : d.get? k = none ↔ k ∉ d.keys := by
  rw [mem_keys, Option.eq_none_iff_forall_not_mem]
  simp [get?_eq_some]

theorem mem_values_iff_get? {d : Dict κ α} {v : α} : v ∈ d.values ↔ ∃ k, d.get? k = some v := by
  simp [mem_values]

theorem mem_keys_iff_get? {d : Dict κ α} {k : κ} : k ∈ d.keys ↔ ∃ v, d.get? k = some v := by
  simp [mem_keys]

/-- When every item's value names its key through `p`, the values that `p` accepts for key `k` are
the value of `k`, if any: a search of the values by a field that holds the key finds what the
lookup of the key finds. -/
theorem filter_values_of_keyed (d : Dict κ α) {p : α → Bool} (k : κ)
    (hp : ∀ k' v, (k', v) ∈ d.items → (p v = true ↔ k' = k)) :
    d.values.filter p = (d.get? k).toList := by
  obtain ⟨items, nodup⟩ := d
  induction items with
  | nil => rfl
  | cons e items ih =>
    obtain ⟨k', v'⟩ := e
    simp only [List.map_cons, List.nodup_cons, List.mem_map] at nodup
    have hrest : ∀ k'' v, (k'', v) ∈ items → (p v = true ↔ k'' = k) := fun k'' v h =>
      hp k'' v (List.mem_cons_of_mem _ h)
    simp only [values, get?, List.map_cons, List.filter_cons, List.lookup_cons] at ih ⊢
    by_cases hk : k' = k
    · subst hk
      have hnil : (items.map Prod.snd).filter p = [] := List.filter_eq_nil_iff.2 fun v hv hpv => by
        obtain ⟨⟨k'', v''⟩, hmem, rfl⟩ := List.mem_map.1 hv
        exact nodup.1 ⟨_, hmem, ((hrest k'' _ hmem).1 hpv)⟩
      simp [(hp k' v' (List.mem_cons_self _ _)).2 rfl, hnil]
    · have hpv : p v' = false := by
        simpa using mt (hp k' v' (List.mem_cons_self _ _)).1 hk
      have hb : (k == k') = false := beq_eq_false_iff_ne.2 (Ne.symm hk)
      simp only [hpv, hb]
      exact ih nodup.2 hrest

/-- The first value that satisfies a test true exactly of the value under key `k` is that value. -/
theorem find?_values_of_keyed (d : Dict κ α) {p : α → Bool} (k : κ)
    (hp : ∀ k' v, (k', v) ∈ d.items → (p v = true ↔ k' = k)) : d.values.find? p = d.get? k := by
  rw [← List.filter_head?, d.filter_values_of_keyed k hp]
  cases d.get? k <;> rfl

theorem mem_setItem {d : Dict κ α} {k k' : κ} {v v' : α} :
    (k', v') ∈ (d.setItem k v).items ↔ (k' = k ∧ v' = v) ∨ (k' ≠ k ∧ (k', v') ∈ d.items) := by
  unfold setItem
  split
  · simp only [List.mem_map]
    constructor
    · rintro ⟨⟨k'', v''⟩, he, h⟩
      by_cases hk : k'' = k
      · simp only [hk, ↓reduceIte, Prod.mk.injEq] at h
        exact .inl ⟨h.1.symm, h.2.symm⟩
      · simp only [hk, ↓reduceIte, Prod.mk.injEq] at h
        obtain ⟨rfl, rfl⟩ := h
        exact .inr ⟨hk, he⟩
    · rintro (⟨rfl, rfl⟩ | ⟨hk, he⟩)
      · obtain ⟨w, hw⟩ := mem_keys.1 ‹k' ∈ d.keys›
        exact ⟨(k', w), hw, by simp⟩
      · exact ⟨(k', v'), he, by simp [hk]⟩
  · simp only [List.mem_append, List.mem_singleton, Prod.mk.injEq]
    constructor
    · rintro (he | h)
      · exact .inr ⟨fun hk => ‹k ∉ d.keys› (hk ▸ mem_keys_of_mem he), he⟩
      · exact .inl h
    · rintro (h | ⟨_, he⟩)
      · exact .inr h
      · exact .inl he

theorem mem_values_setItem_self {d : Dict κ α} {k : κ} {v : α} : v ∈ (d.setItem k v).values :=
  mem_values_of_mem (mem_setItem.2 (.inl ⟨rfl, rfl⟩))

/-- Setting a key that is not present leaves the keys of every other value as they were. -/
theorem get?_setItem_of_not_mem {d : Dict κ α} {k k' : κ} {v v' : α} (hk : k ∉ d.keys)
    (hv : v' ≠ v) : (d.setItem k v).get? k' = some v' ↔ d.get? k' = some v' := by
  rw [get?_eq_some, get?_eq_some, mem_setItem]
  simp only [hv, and_false, false_or]
  exact ⟨fun h => h.2, fun h => ⟨fun hk' => hk (hk' ▸ mem_keys_of_mem h), h⟩⟩

theorem mem_erase {d : Dict κ α} {k k' : κ} {v' : α} :
    (k', v') ∈ (d.erase k).items ↔ k' ≠ k ∧ (k', v') ∈ d.items := by
  simp [erase, and_comm]

theorem get?_erase {d : Dict κ α} {k k' : κ} {v' : α} :
    (d.erase k).get? k' = some v' ↔ k' ≠ k ∧ d.get? k' = some v' := by
  rw [get?_eq_some, get?_eq_some, mem_erase]

end Dict

end Taserver
