import MqttProfile.Proofs.Store.Reopened

/-!
# Profiles saved one after the other

A profile that is saved takes the place of the one that is stored under its identifier, or comes last.  What
it lacks is completed first: an identifier and a time of creation from the supply, or, where the identifier is
known, the time that is stored for it.

* `Completes` is everything that a save can make of a profile, with one case for each branch;
* `Placed` says what becomes of the stored entries, and `keys` is the order in which identifiers were first
  used;
* `Filed` is what every run of saves keeps: each profile under its own identifier, dated, and no identifier
  twice.
-/

namespace MqttProfile

namespace Memory

/-! ## Entries -/

section Entries

variable {α : Type} {id : String} {entry : α} {before after : List (String × α)}

/-- An entry takes the place of the one under its identifier, or comes last if there is none; all other
entries stay where they are. -/
def Placed (id : String) (entry : α) (before after : List (String × α)) : Prop :=
  (∃ front earlier back, before = front ++ (id, earlier) :: back ∧ after = front ++ (id, entry) :: back)
    ∨ ((∀ other ∈ before, other.1 ≠ id) ∧ after = before ++ [(id, entry)])

/-- What is put is placed. -/
theorem placed_put (id : String) (entry : α) (entries : List (String × α)) :
    Placed id entry entries (put id entry entries) := by
  induction entries with
  | nil => exact .inr ⟨List.forall_mem_nil _, rfl⟩
  | cons head entries ih =>
    obtain ⟨i, e⟩ := head
    rw [put]
    by_cases h : i = id
    · rw [if_pos h, h]
      exact .inl ⟨[], e, entries, rfl, rfl⟩
    · rw [if_neg h]
      rcases ih with ⟨front, earlier, back, hbefore, hafter⟩ | ⟨hnone, hafter⟩
      · refine .inl ⟨(i, e) :: front, earlier, back, ?_, ?_⟩
        · rw [hbefore, List.cons_append]
        · rw [hafter, List.cons_append]
      · refine .inr ⟨List.forall_mem_cons.mpr ⟨h, hnone⟩, ?_⟩
        rw [hafter, List.cons_append]

/-- The identifiers that are in use, in the order in which they were first used. -/
def keys (entries : List (String × α)) : List String :=
  entries.map (·.1)

/-- Placing an entry keeps the order of the identifiers: none is added, or its own behind all others. -/
theorem Placed.keys_eq (h : Placed id entry before after) :
    keys after = keys before ∨ id ∉ keys before ∧ keys after = keys before ++ [id] := by
  rcases h with ⟨front, earlier, back, rfl, rfl⟩ | ⟨hnone, rfl⟩
  · left
    simp only [keys, List.map_append, List.map_cons]
  · right
    refine ⟨fun hmem => ?_, ?_⟩
    · obtain ⟨other, hother, hid⟩ := List.mem_map.mp hmem
      exact hnone other hother hid
    · simp only [keys, List.map_append, List.map_cons, List.map_nil]

/-- Placing an entry uses no identifier twice. -/
theorem Placed.nodup (h : Placed id entry before after) (hdistinct : (keys before).Nodup) :
    (keys after).Nodup := by
  rcases h.keys_eq with hsame | ⟨hnew, hadded⟩
  · rw [hsame]
    exact hdistinct
  · rw [hadded]
    refine List.nodup_append.mpr ⟨hdistinct, List.nodup_cons.mpr ⟨List.not_mem_nil, .nil⟩, ?_⟩
    intro other hother added hadded heq
    rw [List.mem_singleton.mp hadded] at heq
    exact hnew (heq ▸ hother)

/-- An entry that is there afterwards was placed or was there before. -/
theorem Placed.mem (h : Placed id entry before after) {other : String × α} (hmem : other ∈ after) :
    other = (id, entry) ∨ other ∈ before := by
  rcases h with ⟨front, earlier, back, rfl, rfl⟩ | ⟨-, rfl⟩
  · rw [List.mem_append, List.mem_cons] at hmem ⊢
    rcases hmem with hfront | hplaced | hback
    · exact .inr (.inl hfront)
    · exact .inl hplaced
    · exact .inr (.inr (.inr hback))
  · rw [List.mem_append, List.mem_singleton] at hmem
    exact hmem.symm

end Entries

/-! ## One save -/

variable {supply : Supply} {memory : Memory} {profile saved : Profile} {id : String}

/-- What a profile is completed to, and the identifier that it is stored under. -/
inductive Completes (supply : Supply) (memory : Memory) (profile : Profile) : String → Profile → Prop
  /-- A profile without an identifier is new, whatever time it brings. -/
  | fresh (hid : profile.id = none) :
      Completes supply memory profile (supply.id memory.idsUsed)
        { profile with
          id := some (supply.id memory.idsUsed)
          createdTime := .int (supply.time memory.timesUsed) }
  /-- A known profile keeps its time. -/
  | known {id : String} {stored : Profile} (hid : profile.id = some id)
      (htime : profile.createdTime = .null) (hstored : memory.profiles.lookup id = some stored) :
      Completes supply memory profile id { profile with createdTime := stored.createdTime }
  /-- A profile that brings its own identifier is dated when it is first saved. -/
  | unknown {id : String} (hid : profile.id = some id) (htime : profile.createdTime = .null)
      (hnone : memory.profiles.lookup id = none) :
      Completes supply memory profile id
        { profile with createdTime := .int (supply.time memory.timesUsed) }
  /-- A profile that brings both is stored as it is. -/
  | dated {id : String} (hid : profile.id = some id) (htime : profile.createdTime ≠ .null) :
      Completes supply memory profile id profile

/-- A profile is completed in one of these ways, and completing it stores nothing. -/
theorem completes_complete (supply : Supply) (profile : Profile) (memory : Memory) :
    Completes supply memory profile (memory.complete supply profile).1
        (memory.complete supply profile).2.1
      ∧ (memory.complete supply profile).2.2.profiles = memory.profiles := by
  unfold complete
  split
  next hid => exact ⟨.fresh hid, rfl⟩
  next id hid =>
    by_cases htime : profile.createdTime = .null
    · rw [if_pos htime]
      split
      next stored hstored => exact ⟨.known hid htime hstored, rfl⟩
      next hnone => exact ⟨.unknown hid htime hnone, rfl⟩
    · rw [if_neg htime]
      exact ⟨.dated hid htime, rfl⟩

/-- A saved profile is completed and put under its identifier. -/
theorem exists_completes (supply : Supply) (profile : Profile) (memory : Memory) :
    ∃ id, Completes supply memory profile id (memory.save supply profile).1
      ∧ (memory.save supply profile).2.profiles
        = put id (memory.save supply profile).1 memory.profiles := by
  obtain ⟨hcompletes, hprofiles⟩ := completes_complete supply profile memory
  refine ⟨_, hcompletes, ?_⟩
  rw [← hprofiles]
  rfl

theorem Completes.id_eq (h : Completes supply memory profile id saved) : saved.id = some id := by
  cases h with
  | fresh _ => rfl
  | known hid _ _ => exact hid
  | unknown hid _ _ => exact hid
  | dated hid _ => exact hid

/-- Each profile is stored under its own identifier and dated, and no identifier is used twice. -/
structure Filed (memory : Memory) : Prop where
  own : ∀ entry ∈ memory.profiles, entry.2.id = some entry.1
  dated : ∀ entry ∈ memory.profiles, entry.2.createdTime ≠ .null
  distinct : (keys memory.profiles).Nodup

/-- A profile that is completed from filed ones is dated. -/
theorem Completes.createdTime_ne_null (h : Completes supply memory profile id saved)
    (hfiled : memory.Filed) : saved.createdTime ≠ .null := by
  cases h with
  | fresh _ => exact fun hnull => nomatch hnull
  | @known id stored _ _ hstored =>
    -- the time that is taken over is the one of a filed profile
    obtain ⟨front, back, hprofiles, -⟩ := List.lookup_eq_some_iff.mp hstored
    refine hfiled.dated (id, stored) ?_
    rw [hprofiles]
    exact List.mem_append_cons_self
  | unknown _ _ _ => exact fun hnull => nomatch hnull
  | dated _ htime => exact htime

/-- A save leaves the profiles filed. -/
theorem Filed.save (h : memory.Filed) (supply : Supply) (profile : Profile) :
    (memory.save supply profile).2.Filed := by
  obtain ⟨id, hcompletes, hprofiles⟩ := exists_completes supply profile memory
  have hplaced := placed_put id (memory.save supply profile).1 memory.profiles
  rw [← hprofiles] at hplaced
  refine ⟨fun entry hmem => ?_, fun entry hmem => ?_, hplaced.nodup h.distinct⟩
  · rcases hplaced.mem hmem with rfl | hbefore
    · exact hcompletes.id_eq
    · exact h.own entry hbefore
  · rcases hplaced.mem hmem with rfl | hbefore
    · exact hcompletes.createdTime_ne_null h
    · exact h.dated entry hbefore

end Memory

end MqttProfile
