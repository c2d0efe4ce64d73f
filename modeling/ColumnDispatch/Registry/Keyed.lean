/-! Records under keys, at most one for each key. A record written under a key that is there takes
the place of the one before it, so whoever must not lose records has to ask first. Entries stand in
the order in which their keys came; no answer depends on that order. -/

namespace ColumnDispatch

@[ext] structure Keyed (Key Rec : Type) where
  entries : List (Key × Rec)
  nodup_keys : (entries.map Prod.fst).Nodup

namespace Keyed

variable {Key Rec : Type}

def empty : Keyed Key Rec := ⟨[], .nil⟩

def size (t : Keyed Key Rec) : Nat := t.entries.length

/-- The records without their keys. -/
def values (t : Keyed Key Rec) : List Rec := t.entries.map Prod.snd

variable [DecidableEq Key]

def get? (t : Keyed Key Rec) (k : Key) : Option Rec :=
  (t.entries.find? (·.1 = k)).map Prod.snd

def contains (t : Keyed Key Rec) (k : Key) : Bool := t.entries.any (·.1 = k)

/-- The entries with one more, or with one replaced. -/
def write (k : Key) (r : Rec) : List (Key × Rec) → List (Key × Rec)
  | [] => [(k, r)]
  | e :: rest => if e.1 = k then (k, r) :: rest else e :: write k r rest

theorem keys_write (k : Key) (r : Rec) (es : List (Key × Rec)) :
    (write k r es).map Prod.fst =
      if k ∈ es.map Prod.fst then es.map Prod.fst else es.map Prod.fst ++ [k] := by
  induction es with
  | nil => rfl
  | cons e rest ih =>
    by_cases he : e.1 = k
    · subst he
      simp [write]
    · have hk : ¬k = e.1 := fun h => he h.symm
      simp only [write, he, if_false, List.map_cons, ih, List.mem_cons, hk, false_or]
      split <;> rfl

theorem nodup_keys_write {k : Key} {r : Rec} {es : List (Key × Rec)}
    (h : (es.map Prod.fst).Nodup) : ((write k r es).map Prod.fst).Nodup := by
  rw [keys_write]
  split
  · exact h
  · rename_i hk
    refine List.nodup_append.2 ⟨h, List.pairwise_singleton _ _, ?_⟩
    intro a ha b hb
    exact fun hab => hk (List.mem_singleton.1 hb ▸ hab ▸ ha)

def insert (t : Keyed Key Rec) (k : Key) (r : Rec) : Keyed Key Rec :=
  ⟨write k r t.entries, nodup_keys_write t.nodup_keys⟩

theorem write_of_not_mem {k : Key} {es : List (Key × Rec)} (r : Rec)
    (h : k ∉ es.map Prod.fst) : write k r es = es ++ [(k, r)] := by
  induction es with
  | nil => rfl
  | cons e rest ih =>
    simp only [List.map_cons, List.mem_cons, not_or] at h
    have he : ¬e.1 = k := fun he => h.1 he.symm
    simp only [write, he, if_false, ih h.2, List.cons_append]

theorem contains_iff {t : Keyed Key Rec} {k : Key} :
    t.contains k ↔ k ∈ t.entries.map Prod.fst := by
  simp [contains, List.mem_map]

/-- A record under a new key is an entry of its own. -/
theorem entries_insert {t : Keyed Key Rec} {k : Key} (r : Rec) (h : t.contains k = false) :
    (t.insert k r).entries = t.entries ++ [(k, r)] :=
  write_of_not_mem r fun hk => by simp [contains_iff.2 hk] at h

end Keyed

end ColumnDispatch
