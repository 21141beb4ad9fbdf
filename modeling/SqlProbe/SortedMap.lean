/-!
# Sorted maps

Maps from strings kept as a list in strictly increasing order of code points, so that a map is
determined by what it holds. Looking up, inserting and removing act on the list; the order is part
of the type.
-/

namespace SqlProbe

/-- A map from strings. -/
structure SortedMap (α : Type) where
  entries : List (String × α) := []
  sorted : entries.Pairwise fun a b => a.1 < b.1 := by exact List.Pairwise.nil

namespace SortedMap

variable {α : Type}

instance : EmptyCollection (SortedMap α) := ⟨{ entries := [] }⟩

instance [DecidableEq α] : DecidableEq (SortedMap α) := fun a b =>
  decidable_of_iff (a.entries = b.entries) <| by
    cases a; cases b; simp only [SortedMap.mk.injEq]

/-- Puts an entry in its place in a list, where it replaces one with the same key. -/
def place (key : String) (value : α) : List (String × α) → List (String × α)
  | [] => [(key, value)]
  | entry :: rest =>
    if key < entry.1 then (key, value) :: entry :: rest
    else if key = entry.1 then (key, value) :: rest
    else entry :: place key value rest

theorem mem_place {key : String} {value : α} {entry : String × α} {l : List (String × α)}
    (h : entry ∈ place key value l) : entry = (key, value) ∨ entry ∈ l := by
  induction l with
  | nil => exact Or.inl (List.mem_singleton.1 h)
  | cons head rest ih =>
    simp only [place] at h
    split at h
    · exact (List.mem_cons.1 h).imp id id
    · split at h
      · exact (List.mem_cons.1 h).imp id fun h => List.mem_cons_of_mem _ h
      · rcases List.mem_cons.1 h with h | h
        · exact Or.inr (h ▸ List.mem_cons_self)
        · exact (ih h).imp id fun h => List.mem_cons_of_mem _ h

theorem pairwise_place {R : String × α → String × α → Prop} {key : String} {value : α}
    {l : List (String × α)} (hl : l.Pairwise R)
    (before : ∀ entry ∈ l, key < entry.1 → R (key, value) entry)
    (after : ∀ entry ∈ l, entry.1 < key → R entry (key, value))
    (replace : ∀ entry ∈ l, key = entry.1 → ∀ other ∈ l, R entry other → R (key, value) other)
    (trans : ∀ entry ∈ l, key < entry.1 → ∀ other ∈ l, R entry other → R (key, value) other) :
    (place key value l).Pairwise R := by
  induction l with
  | nil => exact List.pairwise_singleton _ _
  | cons head rest ih =>
    have ⟨hhead, hrest⟩ := List.pairwise_cons.1 hl
    simp only [place]
    split
    · rename_i hlt
      refine List.pairwise_cons.2 ⟨fun entry hmem => ?_, hl⟩
      rcases List.mem_cons.1 hmem with rfl | hmem
      · exact before _ List.mem_cons_self hlt
      · exact trans head List.mem_cons_self hlt _ (List.mem_cons_of_mem _ hmem) (hhead _ hmem)
    · split
      · rename_i heq
        exact List.pairwise_cons.2
          ⟨fun entry hmem => replace head List.mem_cons_self heq _ (List.mem_cons_of_mem _ hmem)
            (hhead _ hmem), hrest⟩
      · rename_i hlt hne
        refine List.pairwise_cons.2 ⟨fun entry hmem => ?_, ?_⟩
        · rcases mem_place hmem with rfl | hmem
          · exact after _ List.mem_cons_self
              (Std.lt_of_le_of_ne (String.not_lt.1 hlt) fun h => hne h.symm)
          · exact hhead _ hmem
        · exact ih hrest (fun e h => before e (List.mem_cons_of_mem _ h))
            (fun e h => after e (List.mem_cons_of_mem _ h))
            (fun e h heq o ho =>
              replace e (List.mem_cons_of_mem _ h) heq o (List.mem_cons_of_mem _ ho))
            (fun e h hlt o ho =>
              trans e (List.mem_cons_of_mem _ h) hlt o (List.mem_cons_of_mem _ ho))

/-- The map with an entry added or replaced. -/
def insert (map : SortedMap α) (key : String) (value : α) : SortedMap α where
  entries := place key value map.entries
  sorted := pairwise_place map.sorted (fun _ _ h => h) (fun _ _ h => h)
    (fun _ _ h _ _ hr => h ▸ hr) (fun _ _ h _ _ hr => String.lt_trans h hr)

/-- The value of a key. -/
def get? (map : SortedMap α) (key : String) : Option α :=
  (map.entries.find? fun entry => entry.1 == key).map (·.2)

/-- The map without the first entry whose key satisfies a test. -/
def eraseFirst (map : SortedMap α) (test : String → Bool) : SortedMap α where
  entries := map.entries.eraseP fun entry => test entry.1
  sorted := map.sorted.sublist List.eraseP_sublist

/-- The number of entries. -/
def size (map : SortedMap α) : Nat := map.entries.length

/-- The map with the entries of a list inserted one after the other. -/
def insertAll (map : SortedMap α) (entries : List (String × α)) : SortedMap α :=
  entries.foldl (fun map entry => map.insert entry.1 entry.2) map

/-- The map of a list of entries, of which the last with a key counts. -/
def ofList (entries : List (String × α)) : SortedMap α := insertAll ∅ entries

end SortedMap

end SqlProbe
