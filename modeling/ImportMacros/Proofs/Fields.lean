import ImportMacros.Data.Value

/-!
# ImportMacros.Proofs.Fields

Objects as ordered maps. Setting a key changes what is found at that key only (`get?_put`), and
adds at most that key to the end (`keys_put`). So a merge finds what was set last, and keeps the
keys that were there in front of the new ones (`get?_merge`, `keys_merge`).

A value is `Proper` if no object in it, at any depth, has a key twice. Whatever is built with
`Fields.put` is (`Proper.put`).
-/

namespace ImportMacros
namespace Fields

variable {fields other : Fields}

def keys (fields : Fields) : List String := fields.map Prod.fst

theorem keys_cons (key : String) (value : Value) (rest : Fields) :
    keys ((key, value) :: rest) = key :: keys rest := rfl

theorem get?_cons (key : String) (value : Value) (rest : Fields) (k : String) :
    get? ((key, value) :: rest) k = if k = key then some value else get? rest k := by
  rw [get?, List.lookup_cons, get?]
  by_cases h : k = key
  · simp [h]
  · have hbeq : (k == key) = false := by simpa using h
    rw [hbeq, if_neg h]

theorem get?_of_not_mem {k : String} (h : k ∉ fields.keys) : fields.get? k = none := by
  induction fields with
  | nil => rfl
  | cons field rest ih =>
    rw [keys_cons, List.mem_cons, not_or] at h
    rw [get?_cons, if_neg h.1, ih h.2]

theorem get?_put (fields : Fields) (key : String) (value : Value) (k : String) :
    (fields.put key value).get? k = if k = key then some value else fields.get? k := by
  induction fields with
  | nil => rw [put, get?_cons]
  | cons field rest ih =>
    rw [put]
    split
    · rename_i heq
      rw [get?_cons, get?_cons, heq]
      split <;> rfl
    · rename_i hne
      rw [get?_cons, get?_cons, ih]
      by_cases hk : k = field.1
      · rw [if_pos hk, if_pos hk, if_neg fun h => hne (hk.symm.trans h)]
      · rw [if_neg hk, if_neg hk]

theorem keys_put (fields : Fields) (key : String) (value : Value) :
    (fields.put key value).keys =
      if key ∈ fields.keys then fields.keys else fields.keys ++ [key] := by
  induction fields with
  | nil => rfl
  | cons field rest ih =>
    rw [put]
    by_cases h : field.1 = key
    · rw [if_pos h, keys_cons, keys_cons, if_pos (by simp [h])]
    · rw [if_neg h, keys_cons, keys_cons, ih]
      simp only [List.mem_cons, Ne.symm h, false_or]
      split <;> rfl

theorem nodup_keys_put (h : fields.keys.Nodup) (key : String) (value : Value) :
    (fields.put key value).keys.Nodup := by
  rw [keys_put]
  split
  · exact h
  · rename_i hnew
    refine List.nodup_append.2 ⟨h, by simp, ?_⟩
    intro k hk k' hk' heq
    rw [List.mem_singleton] at hk'
    exact hnew (hk' ▸ heq ▸ hk)

theorem merge_cons (fields : Fields) (key : String) (value : Value) (rest : Fields) :
    merge fields ((key, value) :: rest) = merge (fields.put key value) rest := rfl

theorem get?_merge (fields : Fields) (h : other.keys.Nodup) (k : String) :
    (merge fields other).get? k = (other.get? k).or (fields.get? k) := by
  induction other generalizing fields with
  | nil => rfl
  | cons field rest ih =>
    obtain ⟨key, value⟩ := field
    rw [keys_cons, List.nodup_cons] at h
    rw [merge_cons, ih (fields.put key value) h.2, get?_put, get?_cons]
    by_cases hk : k = key
    · rw [if_pos hk, if_pos hk, get?_of_not_mem (hk ▸ h.1)]
      rfl
    · rw [if_neg hk, if_neg hk]

/-- A merge keeps the keys that are there, and adds the new ones in their order. -/
theorem keys_merge (fields : Fields) (h : other.keys.Nodup) :
    (merge fields other).keys = fields.keys ++ other.keys.filter (· ∉ fields.keys) := by
  induction other generalizing fields with
  | nil => simp [merge, keys]
  | cons field rest ih =>
    obtain ⟨key, value⟩ := field
    rw [keys_cons, List.nodup_cons] at h
    rw [merge_cons, ih (fields.put key value) h.2, keys_put, keys_cons]
    by_cases hkey : key ∈ fields.keys
    · rw [if_pos hkey, List.filter_cons_of_neg (by simp [hkey])]
    · have hrest : ∀ k ∈ keys rest,
          decide (k ∉ fields.keys ++ [key]) = decide (k ∉ fields.keys) := by
        intro k hk
        have hne : k ≠ key := by
          rintro rfl
          exact h.1 hk
        simp [hne]
      rw [if_neg hkey, List.filter_cons_of_pos (by simp [hkey]), List.filter_congr hrest]
      simp

theorem nodup_keys_merge (h : fields.keys.Nodup) (h' : other.keys.Nodup) :
    (merge fields other).keys.Nodup := by
  rw [keys_merge fields h', List.nodup_append]
  refine ⟨h, h'.filter _, ?_⟩
  intro k hk k' hk' heq
  subst heq
  simp [hk] at hk'

theorem keys_merge_nil (h : other.keys.Nodup) : (merge [] other).keys = other.keys := by
  rw [keys_merge [] h]
  simp [keys]

theorem mem_of_get? {k : String} {value : Value} (h : fields.get? k = some value) :
    (k, value) ∈ fields := by
  induction fields with
  | nil => cases h
  | cons field rest ih =>
    rw [get?_cons] at h
    split at h
    · rename_i heq
      cases h
      simp [heq]
    · simp [ih h]

end Fields

/-- No object in the value has a key twice. -/
inductive Value.Proper : Value → Prop where
  | null : Proper .null
  | bool (b : Bool) : Proper (.bool b)
  | number (n : Number) : Proper (.number n)
  | string (s : String) : Proper (.string s)
  | array {items : List Value} : (∀ item ∈ items, Proper item) → Proper (.array items)
  | object {fields : Fields} :
      fields.keys.Nodup → (∀ field ∈ fields, Proper field.2) → Proper (.object fields)

namespace Fields

variable {fields : Fields}

/-- No object has a key twice: neither this one nor those in it. -/
structure Proper (fields : Fields) : Prop where
  nodup : fields.keys.Nodup
  values : ∀ field ∈ fields, field.2.Proper

theorem proper_nil : Proper [] := ⟨by simp [keys], by simp⟩

theorem Proper.get? (h : fields.Proper) {k : String} {value : Value}
    (hget : fields.get? k = some value) : value.Proper :=
  h.values (k, value) (mem_of_get? hget)

theorem mem_put {key : String} {value : Value} {field : String × Value}
    (h : field ∈ fields.put key value) : field.2 = value ∨ field ∈ fields := by
  induction fields with
  | nil =>
    rw [put, List.mem_singleton] at h
    exact .inl (h ▸ rfl)
  | cons first rest ih =>
    rw [put] at h
    split at h
    · rcases List.mem_cons.1 h with rfl | h
      · exact .inl rfl
      · exact .inr (by simp [h])
    · rcases List.mem_cons.1 h with rfl | h
      · exact .inr (by simp)
      · exact (ih h).imp_right fun h => by simp [h]

theorem Proper.put (h : fields.Proper) (key : String) {value : Value} (hvalue : value.Proper) :
    (fields.put key value).Proper := by
  refine ⟨nodup_keys_put h.nodup key value, fun field hfield => ?_⟩
  rcases mem_put hfield with heq | hfield
  · exact heq ▸ hvalue
  · exact h.values field hfield

end Fields

namespace Value

theorem proper_object_iff {fields : Fields} : (object fields).Proper ↔ fields.Proper := by
  constructor
  · intro h
    cases h with
    | object hnodup hvalues => exact ⟨hnodup, hvalues⟩
  · intro h
    exact .object h.nodup h.values

theorem Proper.field? {value : Value} (h : value.Proper) {key : String} {found : Value}
    (hfound : value.field? key = some found) : found.Proper := by
  cases value with
  | object fields => exact (proper_object_iff.1 h).get? hfound
  | _ => cases hfound

end Value
end ImportMacros
