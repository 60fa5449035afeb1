/-!
# Entries (SPEC_FULL.md 3, insertion-ordered mapping)

A list of entries, each with a key and a value, in the order in which the keys came first. The
first entry with a key is the one that is found (`List.lookup`). Putting a value under a key that
is there keeps the place of its entry. The lemmas say what is found after entries were put or left
out.
-/

namespace LineSieve.Entries

variable {κ β : Type} [BEq κ]

/-- Gives the first entry with a key a new value, or adds an entry at the end. -/
def put (key : κ) (value : β) : List (κ × β) → List (κ × β)
  | [] => [(key, value)]
  | (k, v) :: rest => if k == key then (k, value) :: rest else (k, v) :: put key value rest

theorem put_ne_nil (key : κ) (value : β) (entries : List (κ × β)) : put key value entries ≠ [] := by
  cases entries with
  | nil => exact List.cons_ne_nil _ _
  | cons p rest =>
    unfold put
    split
    · exact List.cons_ne_nil _ _
    · exact List.cons_ne_nil _ _

section

variable [LawfulBEq κ] {key other : κ}

theorem lookup_cons_of_ne (h : other ≠ key) (value : β) (entries : List (κ × β)) :
    ((key, value) :: entries).lookup other = entries.lookup other := by
  rw [List.lookup_cons, beq_false_of_ne h]

theorem lookup_put_self (key : κ) (value : β) (entries : List (κ × β)) :
    (put key value entries).lookup key = some value := by
  induction entries with
  | nil => simp [put]
  | cons p rest ih =>
    obtain ⟨k, v⟩ := p
    by_cases h : k = key
    · simp [put, h]
    · simp [put, h, lookup_cons_of_ne (Ne.symm h), ih]

theorem lookup_put_of_ne (h : other ≠ key) (value : β) (entries : List (κ × β)) :
    (put key value entries).lookup other = entries.lookup other := by
  induction entries with
  | nil => simp [put, h]
  | cons p rest ih =>
    obtain ⟨k, v⟩ := p
    by_cases hk : k = key
    · simp [put, hk, lookup_cons_of_ne h]
    · by_cases ho : k = other
      · simp [put, ho, h]
      · simp [put, hk, lookup_cons_of_ne (Ne.symm ho), ih]

/-- Of two values for one key the later counts, at the place of the earlier. -/
theorem put_put (key : κ) (value new : β) (entries : List (κ × β)) :
    put key new (put key value entries) = put key new entries := by
  induction entries with
  | nil => simp [put]
  | cons p rest ih =>
    by_cases h : p.1 = key
    · simp [put, h]
    · simp [put, h, ih]

theorem put_of_not_mem {entries : List (κ × β)} (h : key ∉ entries.map Prod.fst) (value : β) :
    put key value entries = entries ++ [(key, value)] := by
  induction entries with
  | nil => rfl
  | cons p rest ih =>
    rw [List.map_cons, List.mem_cons, not_or] at h
    simp [put, Ne.symm h.1, ih h.2]

theorem mem_put {value : β} {entries : List (κ × β)} {p : κ × β} (h : p ∈ put key value entries) :
    p = (key, value) ∨ p ∈ entries := by
  induction entries with
  | nil => exact .inl (List.mem_singleton.mp h)
  | cons q rest ih =>
    unfold put at h
    split at h
    · next hk =>
      rcases List.mem_cons.mp h with h | h
      · exact .inl (h.trans (by rw [beq_iff_eq.mp hk]))
      · exact .inr (List.mem_cons_of_mem q h)
    · rcases List.mem_cons.mp h with h | h
      · exact .inr (h ▸ List.mem_cons_self)
      · exact (ih h).imp_right (List.mem_cons_of_mem q)

theorem nodup_keys_put {value : β} {entries : List (κ × β)} (h : (entries.map Prod.fst).Nodup) :
    ((put key value entries).map Prod.fst).Nodup := by
  induction entries with
  | nil => simp [put]
  | cons p rest ih =>
    rw [List.map_cons, List.nodup_cons] at h
    unfold put
    split
    · rw [List.map_cons, List.nodup_cons]
      exact h
    · next hk =>
      rw [List.map_cons, List.nodup_cons]
      refine ⟨fun hmem => ?_, ih h.2⟩
      obtain ⟨q, hq, hkey⟩ := List.mem_map.mp hmem
      rcases mem_put hq with rfl | hq
      · exact hk (beq_iff_eq.mpr hkey.symm)
      · exact h.1 (hkey ▸ List.mem_map_of_mem hq)

theorem mem_of_lookup {value : β} {entries : List (κ × β)}
    (h : entries.lookup key = some value) : (key, value) ∈ entries := by
  obtain ⟨before, behind, rfl, -⟩ := List.lookup_eq_some_iff.mp h
  exact List.mem_append_right before List.mem_cons_self

/-- Of the entries whose keys are kept the same ones are found. -/
theorem lookup_filter (keep : κ → Bool) (key : κ) (entries : List (κ × β)) :
    (entries.filter fun p => keep p.1).lookup key =
      if keep key then entries.lookup key else none := by
  induction entries with
  | nil => simp
  | cons p rest ih =>
    obtain ⟨k, v⟩ := p
    by_cases h : k = key
    · subst h
      cases hkeep : keep k with
      | true => simp [hkeep]
      | false => simpa [hkeep] using ih
    · cases hkeep : keep k with
      | true => simp [hkeep, lookup_cons_of_ne (Ne.symm h), ih]
      | false => simpa [hkeep, lookup_cons_of_ne (Ne.symm h)] using ih

/-- Putting an entry whose key is not kept makes no difference. -/
theorem filter_put (keep : κ → Bool) (h : keep key = false) (value : β) (entries : List (κ × β)) :
    ((put key value entries).filter fun p => keep p.1) = entries.filter fun p => keep p.1 := by
  induction entries with
  | nil => simp [put, h]
  | cons p rest ih =>
    by_cases hk : p.1 = key
    · simp [put, hk, h]
    · simp [put, hk, List.filter_cons, ih]

/-- Where keys are distinct, the order of entries does not matter. -/
theorem lookup_perm {entries others : List (κ × β)} (h : entries.Perm others)
    (hkeys : (entries.map Prod.fst).Nodup) (key : κ) : entries.lookup key = others.lookup key := by
  induction h with
  | nil => rfl
  | cons p _ ih =>
    have hrest := ih (List.nodup_cons.mp hkeys).2
    rw [List.lookup_cons, List.lookup_cons, hrest]
  | swap p q rest =>
    -- Of two entries with one key the first is found, so this step needs them to be distinct.
    have hne : q.1 ≠ p.1 := by
      intro heq
      simp [heq] at hkeys
    obtain ⟨k, v⟩ := p
    obtain ⟨l, w⟩ := q
    by_cases hk : key = k
    · subst hk
      simp [lookup_cons_of_ne (Ne.symm hne)]
    · simp only [List.lookup_cons, beq_false_of_ne hk]
  | trans hfirst _ ih ih' => exact (ih hkeys).trans (ih' ((hfirst.map Prod.fst).nodup_iff.mp hkeys))

end

end LineSieve.Entries
