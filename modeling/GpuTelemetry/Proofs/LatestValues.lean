import GpuTelemetry.Proofs.Agreement
import GpuTelemetry.Proofs.Stores

namespace GpuTelemetry

theorem getElem?_grid {α β γ : Type} (f : α → β → γ) (xs : List α) (ys : List β) {i j : Nat} {x : α}
    {y : β} (hx : xs[i]? = some x) (hy : ys[j]? = some y) :
    (xs.flatMap fun x => ys.map (f x))[i * ys.length + j]? = some (f x y) := by
  have hj : j < ys.length := (List.getElem?_eq_some_iff.mp hy).1
  induction xs generalizing i with
  | nil => simp at hx
  | cons first rest ih =>
    rw [List.flatMap_cons]
    cases i with
    | zero =>
      obtain rfl : first = x := by simpa using hx
      rw [List.getElem?_append_left (by simpa using hj)]
      simp [hy]
    | succ i =>
      have hskip : (i + 1) * ys.length + j = (ys.map (f first)).length + (i * ys.length + j) := by
        rw [List.length_map, Nat.succ_mul]
        omega
      rw [hskip, List.getElem?_append_right (Nat.le_add_right ..), Nat.add_sub_cancel_left]
      exact ih (by simpa using hx)

namespace Monitor

open Simulator (StoredLast Concerns)

variable {m : Monitor} {engine : Option Nat} {e : Nat} {entities : List Entity} {fields : List UInt16}

/-- A request to a simulated engine returns a value for each field of each entity, entity by entity. It
is the record that was stored last, or the status that says that there is none. -/
theorem latest_values_entity_major (he : m.resolve engine = .ok e)
    (simulated : (m.engines e).connection = none) (fresh : (m.engines e).sim.latest = [])
    (hok : (m.engines e).sim.snapshotStatus = .ok) (some_entity : entities ≠ [])
    (some_field : fields ≠ []) (fits : entities.length * fields.length ≤ Limits.snapshotValues)
    (stores : List (Entity × Record)) (flags : UInt32) :
    ∃ values, ((m.adjustSim e (·.storeEach stores)).snapshot engine entities fields flags none).1 =
        .ok values ∧
      values.length = entities.length * fields.length ∧
      ∀ i j x f, entities[i]? = some x → fields[j]? = some f → ∃ v,
        values[i * fields.length + j]? = some v ∧ v.entity.codes = x.codes ∧ v.field = f ∧
        ((∃ r, StoredLast stores x.codes f r ∧ v.kind = .ofTag r.tag ∧ v.status = .ofCode r.status ∧
            v.time = r.time ∧ v.reading = .ofBlock (.ofTag r.tag) r.payload) ∨
          (∀ p ∈ stores, ¬ Concerns x.codes f p) ∧
            v.kind = .int64 ∧ v.status = .noData ∧ v.time = 0 ∧ v.reading = .int 0) := by
  have hstatus := (Simulator.storeEach_status (m.engines e).sim stores).trans hok
  refine ⟨_, snapshot_simulated he simulated _ hstatus some_entity some_field fits flags, ?_, ?_⟩
  · simp [List.length_flatMap]
  · intro i j x f hx hf
    refine ⟨_, getElem?_grid _ entities fields hx hf, ?_⟩
    obtain ⟨hcodes, hfield⟩ :=
      ((m.engines e).sim.storeEach stores).lookup_address x.codes.1 x.codes.2 f
    refine ⟨(Entity.codes_ofCodes _ _).trans hcodes, hfield, ?_⟩
    obtain ⟨r, hlast⟩ | hnone := Simulator.storedLast_or_unconcerned stores x.codes f
    · rw [Simulator.lookup_storedLast hlast]
      exact .inl ⟨r, hlast, rfl, rfl, rfl, rfl⟩
    · rw [Simulator.lookup_unconcerned fresh hnone]
      have hmissing : Status.ofCode Status.noData.code = .noData := by decide
      have hzero : Reading.ofBlock (.ofTag Tag.int64) .zero = .int 0 := by decide
      exact .inr ⟨hnone, rfl, hmissing, rfl, hzero⟩

theorem later_store_at_place_four : ∃ (m : Monitor) (values : List Sample) (v w : Sample),
    (m.snapshot (some 0) [.gpu 1, .gpu 0] [50, 150, 155] 0 none).1 = .ok values ∧ values.length = 6 ∧
      values[4]? = some v ∧ v.entity.codes = (1, 0) ∧ v.field = 150 ∧ v.kind = .int64 ∧
      v.status = .ok ∧ v.time = 6 ∧ v.reading = .int 2 ∧
      values[1]? = some w ∧ w.entity.codes = (1, 1) ∧ w.field = 150 ∧ w.status = .noData := by
  let m : Monitor := ({} : Monitor).addEngine {}
  let stores := [(Entity.gpu 0, Record.ofInt 150 5 1), (⟨.other 1, 0⟩, Record.ofInt 150 6 2),
    (Entity.gpu 0, Record.ofInt 50 7 3)]
  obtain ⟨values, hvalues, hlength, hplaces⟩ :=
    latest_values_entity_major (show m.resolve (some 0) = .ok 0 by simp [m, resolve, addEngine])
      (by simp [m, addEngine]) (by simp [m, addEngine]) (by simp [m, addEngine])
      (show [Entity.gpu 1, .gpu 0] ≠ [] by decide) (show ([50, 150, 155] : List UInt16) ≠ [] by decide)
      (by decide) stores 0
  obtain ⟨v, hv, hcodes, hfield, ⟨r, hlast, hkind, hstatus, htime, hreading⟩ | ⟨hnone, -⟩⟩ :=
    hplaces 1 1 (.gpu 0) 150 rfl rfl
  · obtain ⟨w, hw, hcodes', hfield', ⟨r', hlast', -⟩ | ⟨-, -, hstatus', -⟩⟩ :=
      hplaces 0 1 (.gpu 1) 150 rfl rfl
    · cases (Simulator.find?_storedLast hlast').symm.trans (show _ = none by decide)
    · have hr : r.withEntity 1 0 = (Record.ofInt 150 6 2).withEntity 1 0 :=
        Option.some.inj ((Simulator.find?_storedLast hlast).symm.trans (by decide))
      have htag : r.tag = Tag.int64 := congrArg EntityRecord.tag hr
      have hcode : r.status = 0 := congrArg EntityRecord.status hr
      have htime' : r.time = 6 := congrArg EntityRecord.time hr
      have hpayload : r.payload = .ofWord 2 := congrArg EntityRecord.payload hr
      refine ⟨_, values, v, w, hvalues, hlength, hv, hcodes, hfield, ?_, ?_, htime.trans htime', ?_, hw,
        hcodes', hfield', hstatus'⟩
      · rw [hkind, htag]
        rfl
      · rw [hstatus, hcode]
        rfl
      · rw [hreading, htag, hpayload]
        decide
  · exact absurd ⟨rfl, rfl⟩ (hnone (Entity.gpu 0, Record.ofInt 150 5 1) (by simp [stores]))

end Monitor

end GpuTelemetry
