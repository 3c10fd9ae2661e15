import Launcher.History

namespace Launcher

/-!
# The launch history counts launches

The rows of a history are found by the identity of their item, a text that is made of the kind and
the path. A launch goes to the row with the identity of the launched item, or to a new row behind
all others. That counts are kept right therefore rests on two facts: one identity is one kind and
one path, and one identity has one row.

* `Item.idAt_inj` — one identity is one kind and one path.
* `History.count_record` — a launch counts for its item and for no other.
* `History.ids_recordIn` — a launch leaves the identities of the rows, or adds one that is new.
* `History.Proper` — every row is the item of a kind at a path, and no two are the same.
* `History.Proper.record` — a launch keeps the history so.
* `History.Proper.distinct` — no two rows name the same kind and path.
-/

/-! ### Identities -/

namespace Item

/-- The identity of the item of a kind at a path. -/
def idAt (kind : ItemKind) (path : String) : String :=
  kind.tag ++ ":" ++ path

@[simp] theorem atPath_id (kind : ItemKind) (title path : String) :
    (atPath kind title path).id = idAt kind path := rfl

@[simp] theorem atPath_kind (kind : ItemKind) (title path : String) :
    (atPath kind title path).kind = kind := rfl

@[simp] theorem atPath_path (kind : ItemKind) (title path : String) :
    (atPath kind title path).path = path := rfl

/-- What an identity begins with tells the kind, and what follows it is the path. -/
theorem idAt_inj {kind kind' : ItemKind} {path path' : String} :
    idAt kind path = idAt kind' path' ↔ kind = kind' ∧ path = path' := by
  constructor
  · intro h
    have hchars := congrArg String.toList h
    -- The tags differ in their first letters.
    cases kind <;> cases kind' <;>
      simp [idAt, ItemKind.tag, String.toList_append] at hchars
    all_goals exact ⟨rfl, String.toList_inj.mp hchars⟩
  · rintro ⟨rfl, rfl⟩
    rfl

end Item

namespace History

variable {item : Item} {time : Int} {rows : List Launch} {h : History}

/-! ### Counts -/

/-- A launch goes to the first row of its identity. -/
theorem recordIn_cons_of_eq {row : Launch} (hid : row.item.id = item.id) :
    recordIn item time (row :: rows) = ⟨item, row.count + 1, time⟩ :: rows :=
  if_pos hid

/-- A row of another identity stays as it is. -/
theorem recordIn_cons_of_ne {row : Launch} (hid : row.item.id ≠ item.id) :
    recordIn item time (row :: rows) = row :: recordIn item time rows :=
  if_neg hid

theorem count_nil (id : String) : count ⟨[]⟩ id = 0 := rfl

/-- The count of an identity is in the first row that has it. -/
theorem count_cons (row : Launch) (rows : List Launch) (id : String) :
    count ⟨row :: rows⟩ id = if row.item.id = id then row.count else count ⟨rows⟩ id := by
  unfold count
  by_cases hid : row.item.id = id
  · simp [hid]
  · simp [hid]

/-- Among rows, a launch counts for its item alone. -/
theorem count_recordIn (item : Item) (time : Int) (rows : List Launch) (id : String) :
    count ⟨recordIn item time rows⟩ id =
      count ⟨rows⟩ id + if item.id = id then 1 else 0 := by
  induction rows with
  | nil =>
    show count ⟨[⟨item, 1, time⟩]⟩ id = _
    rw [count_cons, count_nil, Nat.zero_add]
  | cons row rows ih =>
    by_cases hrow : row.item.id = item.id
    · rw [recordIn_cons_of_eq hrow, count_cons, count_cons, hrow]
      by_cases hid : item.id = id <;> simp [hid]
    · rw [recordIn_cons_of_ne hrow, count_cons, count_cons, ih]
      by_cases hid : row.item.id = id
      · -- The row that holds the count is another one than that of the launch.
        have hne : item.id ≠ id := fun h => hrow (hid.trans h.symm)
        simp [hid, hne]
      · simp [hid]

/-- **A launch counts** for its item once, and for no other. -/
theorem count_record (h : History) (item : Item) (time : Int) (id : String) :
    (h.record item time).count id = h.count id + if item.id = id then 1 else 0 :=
  count_recordIn item time h.launches id

/-! ### Rows -/

/-- The identities of some rows. -/
def ids (rows : List Launch) : List String :=
  rows.map (·.item.id)

/-- A launch adds an identity that no row has. -/
theorem ids_recordIn (item : Item) (time : Int) (rows : List Launch) :
    ids (recordIn item time rows) =
      if item.id ∈ ids rows then ids rows else ids rows ++ [item.id] := by
  induction rows with
  | nil => rfl
  | cons row rows ih =>
    by_cases hrow : row.item.id = item.id
    · rw [recordIn_cons_of_eq hrow]
      simp [ids, hrow]
    · have hmem : item.id ∈ ids (row :: rows) ↔ item.id ∈ ids rows := by
        simp [ids, Ne.symm hrow]
      rw [recordIn_cons_of_ne hrow]
      show row.item.id :: ids (recordIn item time rows) = _
      rw [ih]
      simp only [hmem]
      split <;> rfl

/-- No two rows come to have one identity. -/
theorem nodup_recordIn (h : (ids rows).Nodup) : (ids (recordIn item time rows)).Nodup := by
  rw [ids_recordIn]
  split
  next => exact h
  next hnew =>
    refine List.nodup_append.mpr ⟨h, by simp, ?_⟩
    rintro id hid _ hnewId rfl
    rw [List.mem_singleton.mp hnewId] at hid
    exact hnew hid

/-- After a launch a row is that of the launched item, or was there. -/
theorem mem_recordIn {row : Launch} (h : row ∈ recordIn item time rows) :
    row.item = item ∨ row ∈ rows := by
  induction rows with
  | nil =>
    obtain rfl := List.mem_singleton.mp h
    exact .inl rfl
  | cons first rows ih =>
    by_cases hfirst : first.item.id = item.id
    · rw [recordIn_cons_of_eq hfirst] at h
      obtain rfl | hrow := List.mem_cons.mp h
      · exact .inl rfl
      · exact .inr (List.mem_cons_of_mem _ hrow)
    · rw [recordIn_cons_of_ne hfirst] at h
      obtain rfl | hrow := List.mem_cons.mp h
      · exact .inr List.mem_cons_self
      · exact (ih hrow).imp_right (List.mem_cons_of_mem _)

/-- Every row is the item of a kind at a path, and no two rows have the same identity. -/
structure Proper (h : History) : Prop where
  named : ∀ row ∈ h.launches, row.item.id = Item.idAt row.item.kind row.item.path
  nodup : (ids h.launches).Nodup

/-- An empty history has no rows. -/
theorem proper_empty : Proper {} where
  named _ hrow := nomatch hrow
  nodup := List.nodup_nil

/-- A launch of the item of a kind at a path leaves the rows proper. -/
theorem Proper.record (hproper : h.Proper) (kind : ItemKind) (title path : String) (time : Int) :
    (h.record (.atPath kind title path) time).Proper where
  named row hrow := by
    obtain hitem | hrow := mem_recordIn hrow
    · rw [hitem]
      rfl
    · exact hproper.named row hrow
  nodup := nodup_recordIn hproper.nodup

/-- No two rows name the same kind and path. -/
theorem Proper.distinct (hproper : h.Proper) : h.launches.Pairwise fun a b =>
    ¬(a.item.kind = b.item.kind ∧ a.item.path = b.item.path) := by
  have hnodup : h.launches.Pairwise fun a b => a.item.id ≠ b.item.id :=
    List.pairwise_map.mp hproper.nodup
  refine hnodup.imp_of_mem ?_
  rintro a b ha hb hid ⟨hkind, hpath⟩
  rw [hproper.named a ha, hproper.named b hb, hkind, hpath] at hid
  exact hid rfl

end History

end Launcher
