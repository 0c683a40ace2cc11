/-!
# Dictionaries

Texts with something under each, in the order in which the keys were first put there. No operation
puts one key there twice.
-/

namespace StreetConsole

/-- Keys with something under each, in order of first entry. -/
abbrev Dict (α : Type) := List (String × α)

namespace Dict

variable {α : Type}

/-- What is under a key. -/
def get? : Dict α → String → Option α
  | [], _ => none
  | (k, a) :: rest, key => if k = key then some a else get? rest key

/-- Puts something under a key, at the key's place if it has one and at the end otherwise. -/
def put : Dict α → String → α → Dict α
  | [], key, a => [(key, a)]
  | (k, b) :: rest, key, a => if k = key then (k, a) :: rest else (k, b) :: put rest key a

/-- The dictionary of a list of pairs: of pairs with one key the last one counts, at the place of
the first. -/
def ofPairs (pairs : List (String × α)) : Dict α :=
  pairs.foldl (fun d p => put d p.1 p.2) []

/-- The keys, in the order of the entries. -/
def keys (d : Dict α) : List String := d.map (·.1)

/-- Puts something under a key that has nothing under it yet. -/
def putMissing (d : Dict α) (key : String) (a : α) : Dict α :=
  if (get? d key).isSome then d else put d key a

/-- Adds the entries of another dictionary whose keys are new. -/
def addMissing (d other : Dict α) : Dict α :=
  other.foldl (fun d p => putMissing d p.1 p.2) d

/-- Puts in the entries of another dictionary. -/
def update (d other : Dict α) : Dict α := other.foldl (fun d p => put d p.1 p.2) d

/-! ## What is under a key after a change -/

@[simp] theorem get?_put_self (d : Dict α) (key : String) (a : α) :
    get? (put d key a) key = some a := by
  induction d with
  | nil => simp [put, get?]
  | cons p rest ih => by_cases h : p.1 = key <;> simp [put, get?, h, ih]

theorem get?_put_of_ne {d : Dict α} {key other : String} {a : α} (h : other ≠ key) :
    get? (put d key a) other = get? d other := by
  induction d with
  | nil => simp [put, get?, h.symm]
  | cons p rest ih =>
    by_cases hkey : p.1 = key
    · simp [put, get?, hkey, h.symm]
    · rw [put, if_neg hkey, get?, get?, ih]

/-- To put under a key what is there already changes nothing. -/
theorem put_eq_self {d : Dict α} {key : String} {a : α} (h : get? d key = some a) :
    put d key a = d := by
  induction d with
  | nil => simp [get?] at h
  | cons p rest ih =>
    by_cases hkey : p.1 = key
    · simp only [get?, if_pos hkey, Option.some.injEq] at h
      simp [put, hkey, ← h, Prod.ext_iff]
    · simp only [get?, if_neg hkey] at h
      simp [put, hkey, ih h]

theorem put_put (d : Dict α) (key : String) (a b : α) : put (put d key a) key b = put d key b := by
  induction d with
  | nil => simp [put]
  | cons p rest ih => by_cases h : p.1 = key <;> simp [put, h, ih]

theorem putMissing_of_some {d : Dict α} {key : String} {a b : α} (h : get? d key = some b) :
    putMissing d key a = d := by
  simp [putMissing, h]

theorem putMissing_of_none {d : Dict α} {key : String} {a : α} (h : get? d key = none) :
    putMissing d key a = put d key a := by
  simp [putMissing, h]

theorem get?_putMissing_self (d : Dict α) (key : String) (a : α) :
    get? (putMissing d key a) key = some ((get? d key).getD a) := by
  cases h : get? d key with
  | none => rw [putMissing_of_none h, get?_put_self, Option.getD_none]
  | some b => rw [putMissing_of_some h, h, Option.getD_some]

theorem put_putMissing (d : Dict α) (key : String) (a b : α) :
    put (putMissing d key a) key b = put d key b := by
  cases h : get? d key with
  | none => rw [putMissing_of_none h, put_put]
  | some c => rw [putMissing_of_some h]

/-! ## Keys -/

@[simp] theorem keys_nil : keys ([] : Dict α) = [] := rfl

@[simp] theorem keys_cons (p : String × α) (rest : Dict α) : keys (p :: rest) = p.1 :: keys rest :=
  rfl

theorem mem_keys_iff {d : Dict α} {key : String} : key ∈ keys d ↔ (get? d key).isSome := by
  induction d with
  | nil => simp [get?]
  | cons p rest ih =>
    by_cases h : p.1 = key
    · simp [get?, h]
    · rw [get?, if_neg h, ← ih]
      simp [Ne.symm h]

/-- A key that is put again keeps its place, and a new one comes last. -/
theorem keys_put (d : Dict α) (key : String) (a : α) :
    keys (put d key a) = if key ∈ keys d then keys d else keys d ++ [key] := by
  induction d with
  | nil => rfl
  | cons p rest ih =>
    by_cases h : p.1 = key
    · simp [put, h]
    · rw [put, if_neg h, keys_cons, keys_cons, ih]
      by_cases hmem : key ∈ keys rest <;> simp [hmem, Ne.symm h]

theorem keys_prefix_put (d : Dict α) (key : String) (a : α) : keys d <+: keys (put d key a) := by
  rw [keys_put]
  split
  · exact List.prefix_refl _
  · exact List.prefix_append _ _

theorem nodup_keys_put {d : Dict α} (h : (keys d).Nodup) (key : String) (a : α) :
    (keys (put d key a)).Nodup := by
  rw [keys_put]
  split
  · exact h
  · next hkey =>
    refine List.nodup_append.2 ⟨h, by simp, fun k hk k' hk' => ?_⟩
    obtain rfl := List.mem_singleton.1 hk'
    rintro rfl
    exact hkey hk

theorem mem_of_mem_put {d : Dict α} {key : String} {a : α} {p : String × α}
    (h : p ∈ put d key a) : p ∈ d ∨ p = (key, a) := by
  induction d with
  | nil => exact Or.inr (List.mem_singleton.1 h)
  | cons q rest ih =>
    by_cases hkey : q.1 = key
    · rw [put, if_pos hkey, hkey, List.mem_cons] at h
      exact h.symm.imp_left (List.mem_cons_of_mem q)
    · rw [put, if_neg hkey, List.mem_cons] at h
      rcases h with rfl | h
      · exact Or.inl List.mem_cons_self
      · exact (ih h).imp_left (List.mem_cons_of_mem q)

theorem mem_keys_of_mem {d : Dict α} {p : String × α} (h : p ∈ d) : p.1 ∈ keys d :=
  List.mem_map_of_mem h

/-- Where no key is there twice, an entry is what is under its key. -/
theorem get?_eq_some_iff_mem {d : Dict α} (h : (keys d).Nodup) {key : String} {a : α} :
    get? d key = some a ↔ (key, a) ∈ d := by
  induction d with
  | nil => simp [get?]
  | cons p rest ih =>
    rw [keys_cons, List.nodup_cons] at h
    obtain ⟨hfirst, hrest⟩ := h
    by_cases hkey : p.1 = key
    · have hnot : (key, a) ∉ rest := fun hmem => hfirst (hkey ▸ mem_keys_of_mem hmem)
      simp [get?, hkey, hnot, Prod.ext_iff, eq_comm]
    · simp [get?, hkey, ih hrest, Prod.ext_iff, Ne.symm hkey]

end Dict

end StreetConsole
