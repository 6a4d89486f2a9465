import GpuTelemetry.Simulator

namespace GpuTelemetry

namespace Simulator

variable {s : Simulator} {stores : List (Entity × Record)} {codes : UInt32 × UInt32} {field : UInt16}
  {r : Record}

def storeEach (s : Simulator) (stores : List (Entity × Record)) : Simulator :=
  stores.foldl (fun s p => s.setLatest p.1.group.code p.1.id p.2) s

def stored (p : Entity × Record) : EntityRecord := p.2.withEntity p.1.group.code p.1.id

theorem storeEach_eq (s : Simulator) (stores : List (Entity × Record)) :
    s.storeEach stores = { s with latest := (stores.map stored).reverse ++ s.latest } := by
  induction stores generalizing s with
  | nil => simp [storeEach]
  | cons p rest ih =>
    have hnext : s.storeEach (p :: rest) =
        (s.setLatest p.1.group.code p.1.id p.2).storeEach rest := rfl
    rw [hnext, ih]
    simp [setLatest, stored]

theorem storeEach_status (s : Simulator) (stores : List (Entity × Record)) :
    (s.storeEach stores).snapshotStatus = s.snapshotStatus := by rw [storeEach_eq]

def Concerns (codes : UInt32 × UInt32) (field : UInt16) (p : Entity × Record) : Prop :=
  p.1.codes = codes ∧ p.2.field = field

def StoredLast (stores : List (Entity × Record)) (codes : UInt32 × UInt32) (field : UInt16)
    (r : Record) : Prop :=
  ∃ front x back, stores = front ++ (x, r) :: back ∧ Concerns codes field (x, r) ∧
    ∀ p ∈ back, ¬ Concerns codes field p

theorem StoredLast.mem (h : StoredLast stores codes field r) :
    ∃ x, (x, r) ∈ stores ∧ Concerns codes field (x, r) := by
  obtain ⟨front, x, back, rfl, hconcerns, -⟩ := h
  exact ⟨x, by simp, hconcerns⟩

theorem storedLast_or_unconcerned (stores : List (Entity × Record)) (codes : UInt32 × UInt32)
    (field : UInt16) :
    (∃ r, StoredLast stores codes field r) ∨ ∀ p ∈ stores, ¬ Concerns codes field p := by
  induction stores with
  | nil => exact .inr (by simp)
  | cons p rest ih =>
    obtain ⟨r, front, x, back, rfl, hconcerns, hback⟩ | hrest := ih
    · exact .inl ⟨r, p :: front, x, back, rfl, hconcerns, hback⟩
    · by_cases hp : Concerns codes field p
      · exact .inl ⟨p.2, [], p.1, rest, rfl, hp, hrest⟩
      · exact .inr (List.forall_mem_cons.mpr ⟨hp, hrest⟩)

def isFor (codes : UInt32 × UInt32) (field : UInt16) (r : EntityRecord) : Bool :=
  r.group == codes.1 && r.id == codes.2 && r.field == field

theorem isFor_stored {p : Entity × Record} :
    isFor codes field (stored p) = true ↔ Concerns codes field p := by
  obtain ⟨group, id⟩ := codes
  simp [isFor, Concerns, stored, Record.withEntity, Entity.codes]

theorem find?_unconcerned (h : ∀ p ∈ stores, ¬ Concerns codes field p) :
    (stores.map stored).reverse.find? (isFor codes field) = none := by
  refine List.find?_eq_none.mpr fun r hr hmatch => ?_
  obtain ⟨p, hp, rfl⟩ := List.mem_map.mp (List.mem_reverse.mp hr)
  exact h p hp (isFor_stored.mp hmatch)

theorem find?_storedLast (h : StoredLast stores codes field r) :
    (stores.map stored).reverse.find? (isFor codes field) = some (r.withEntity codes.1 codes.2) := by
  -- the latest store comes first
  obtain ⟨front, x, back, rfl, hconcerns, hback⟩ := h
  rw [List.map_append, List.map_cons, List.reverse_append, List.reverse_cons, List.append_assoc,
    List.find?_append, find?_unconcerned hback, Option.none_or, List.singleton_append,
    List.find?_cons_of_pos (isFor_stored.mpr hconcerns)]
  obtain ⟨rfl, -⟩ := hconcerns
  rfl

theorem lookup_eq (s : Simulator) (codes : UInt32 × UInt32) (field : UInt16) :
    s.lookup codes.1 codes.2 field = (s.latest.find? (isFor codes field)).getD
      { group := codes.1, id := codes.2, field, tag := Tag.int64, status := Status.noData.code } := by
  unfold lookup isFor
  split <;> simp [*]

theorem lookup_storedLast (h : StoredLast stores codes field r) :
    (s.storeEach stores).lookup codes.1 codes.2 field = r.withEntity codes.1 codes.2 := by
  simp [lookup_eq, storeEach_eq, List.find?_append, find?_storedLast h]

theorem lookup_unconcerned (fresh : s.latest = []) (h : ∀ p ∈ stores, ¬ Concerns codes field p) :
    (s.storeEach stores).lookup codes.1 codes.2 field =
      { group := codes.1, id := codes.2, field, tag := Tag.int64, status := Status.noData.code } := by
  simp [lookup_eq, storeEach_eq, fresh, find?_unconcerned h]

theorem lookup_address (s : Simulator) (group id : UInt32) (field : UInt16) :
    ((s.lookup group id field).group, (s.lookup group id field).id) = (group, id) ∧
      (s.lookup group id field).field = field := by
  unfold lookup
  split
  · rename_i r hr
    simpa [and_assoc] using List.find?_some hr
  · exact ⟨rfl, rfl⟩

end Simulator

end GpuTelemetry
