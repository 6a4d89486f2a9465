import GpuTelemetry.Proofs.Runs
import GpuTelemetry.Proofs.Snapshots
import GpuTelemetry.Proofs.Staging
import GpuTelemetry.Proofs.Stores
import Mathlib.Data.List.Nodup

namespace GpuTelemetry

theorem handOut_goOn {σ : Type} {callback : σ → History.Delivery → Int32 × σ}
    (goesOn : ∀ s d, (callback s d).1 = 0) (bs : List Batch) (s : σ) :
    handOut callback bs s =
      (bs.map Batch.overwritten, (bs.map Batch.delivery).foldl (fun s d => (callback s d).2) s) := by
  induction bs generalizing s with
  | nil => rfl
  | cons b rest ih =>
    simp only [handOut, goesOn, if_true, ih]
    rfl

theorem receive_answer (s : History.Staging) (d : History.Delivery) : (s.receive d).1 = 0 := by
  unfold History.Staging.receive
  split <;> rfl

theorem handOut_receive (bs : List Batch) (s : History.Staging) :
    handOut History.Staging.receive bs s =
      (bs.map Batch.overwritten, s.receiveAll (bs.map Batch.delivery)) :=
  handOut_goOn receive_answer bs s

theorem Simulator.history_goOn (s : Simulator) : (s.history fun _ => History.goOn).1 =
    ⟨s.batches.map Batch.delivery, some s.cursor, s.historyStatus⟩ := by
  rw [history, handOut_goOn fun _ _ => rfl, List.foldl_append_eq_append, List.nil_append,
    ← List.flatMap_def, List.flatMap_singleton']

namespace Simulator

variable {entities : List Entity} {fields : List UInt16} {record : Entity → UInt16 → Record}
  {order : List (Entity × UInt16)}

def batchOf (fields : List UInt16) (record : Entity → UInt16 → Record) (x : Entity) : Batch :=
  ⟨x.group.code, x.id, fields.map (record x)⟩

def latestOf (record : Entity → UInt16 → Record) (p : Entity × UInt16) : EntityRecord :=
  (record p.1 p.2).withEntity p.1.group.code p.1.id

def pushAll (s : Simulator) (entities : List Entity) (fields : List UInt16)
    (record : Entity → UInt16 → Record) : Simulator :=
  entities.foldl (fun s x => s.pushBatch (batchOf fields record x)) s

def storeAll (s : Simulator) (order : List (Entity × UInt16)) (record : Entity → UInt16 → Record) :
    Simulator :=
  order.foldl (fun s p => s.setLatest p.1.group.code p.1.id (record p.1 p.2)) s

theorem pushAll_eq (s : Simulator) (entities : List Entity) (fields : List UInt16)
    (record : Entity → UInt16 → Record) : s.pushAll entities fields record =
      { s with batches := s.batches ++ entities.map (batchOf fields record) } := by
  induction entities generalizing s with
  | nil => simp [pushAll]
  | cons x rest ih =>
    have hnext : s.pushAll (x :: rest) fields record =
        (s.pushBatch (batchOf fields record x)).pushAll rest fields record := rfl
    rw [hnext, ih]
    simp [pushBatch]

theorem storeAll_eq (s : Simulator) (order : List (Entity × UInt16))
    (record : Entity → UInt16 → Record) :
    s.storeAll order record = s.storeEach (order.map fun p => (p.1, record p.1 p.2)) := by
  rw [storeAll, storeEach, List.foldl_map]

structure Covers (order : List (Entity × UInt16)) (entities : List Entity) (fields : List UInt16)
    (record : Entity → UInt16 → Record) : Prop where
  distinct : (entities.map Entity.codes).Nodup
  all : ∀ x f, (x, f) ∈ order ↔ x ∈ entities ∧ f ∈ fields
  named : ∀ x ∈ entities, ∀ f ∈ fields, (record x f).field = f

theorem lookup_storeAll (s : Simulator) (covers : Covers order entities fields record) {x : Entity}
    (hx : x ∈ entities) {f : UInt16} (hf : f ∈ fields) :
    (s.storeAll order record).lookup x.group.code x.id f = latestOf record (x, f) := by
  rw [storeAll_eq]
  obtain ⟨r, hlast⟩ | hnone :=
    storedLast_or_unconcerned (order.map fun p => (p.1, record p.1 p.2)) x.codes f
  · obtain ⟨y, hmem, hcodes, hfield⟩ := hlast.mem
    obtain ⟨⟨y, g⟩, hp, heq⟩ := List.mem_map.mp hmem
    cases heq
    obtain ⟨hy, hg⟩ := (covers.all y g).mp hp
    -- entities with the same codes are one entity, and the field of a record tells it from others
    obtain rfl := List.inj_on_of_nodup_map covers.distinct hy hx hcodes
    obtain rfl := (covers.named y hy g hg).symm.trans hfield
    exact lookup_storedLast hlast
  · exact absurd ⟨rfl, covers.named x hx f hf⟩
      (hnone _ (List.mem_map_of_mem ((covers.all x f).mpr ⟨hx, hf⟩)))

def samples (entities : List Entity) (fields : List UInt16) (record : Entity → UInt16 → Record) :
    List Sample :=
  entities.flatMap fun x => fields.map fun f => .ofRecord x.group.code x.id (record x f)

theorem length_samples : (samples entities fields record).length = entities.length * fields.length := by
  simp [samples, List.length_flatMap]

theorem gathered_pushed : History.gathered ((entities.map (batchOf fields record)).map Batch.delivery) =
    samples entities fields record := by
  have hone (x : Entity) : (batchOf fields record x).delivery.samples =
      fields.map fun f => .ofRecord x.group.code x.id (record x f) := by
    have hwhole : (batchOf fields record x).delivery.batch = fields.map (record x) :=
      List.take_of_length_le (by simp [Batch.delivery, batchOf])
    rw [History.Delivery.samples, hwhole, List.map_map]
    rfl
  have haddressed : (entities.map (batchOf fields record)).map Batch.delivery =
      ((entities.map (batchOf fields record)).map Batch.delivery).filter (·.addressed) := by
    rw [List.filter_eq_self.mpr]
    simp [Batch.delivery]
  rw [History.gathered, ← haddressed, samples, List.flatMap_map, List.flatMap_map]
  simp only [hone]

theorem samples_stored (s : Simulator) (covers : Covers order entities fields record) :
    (entities.flatMap fun x => fields.map fun f =>
      Sample.ofEntityRecord ((s.storeAll order record).lookup x.codes.1 x.codes.2 f)) =
        samples entities fields record :=
  List.flatMap_congr fun _ hx => List.map_congr_left fun _ hf =>
    congrArg Sample.ofEntityRecord (lookup_storeAll s covers hx hf)

end Simulator

namespace Engine

structure SameAnswers (e e' : Engine) : Prop where
  owned : e'.owned = e.owned
  connection : e'.connection = e.connection
  batches : e'.sim.batches = e.sim.batches
  historyStatus : e'.sim.historyStatus = e.sim.historyStatus
  cursor : e'.sim.cursor = e.sim.cursor
  latest : e'.sim.latest = e.sim.latest
  snapshotStatus : e'.sim.snapshotStatus = e.sim.snapshotStatus

theorem SameAnswers.refl (e : Engine) : SameAnswers e e := ⟨rfl, rfl, rfl, rfl, rfl, rfl, rfl⟩

theorem SameAnswers.trans {e f g : Engine} (h : SameAnswers e f) (h' : SameAnswers f g) :
    SameAnswers e g :=
  ⟨h'.owned.trans h.owned, h'.connection.trans h.connection, h'.batches.trans h.batches,
    h'.historyStatus.trans h.historyStatus, h'.cursor.trans h.cursor, h'.latest.trans h.latest,
    h'.snapshotStatus.trans h.snapshotStatus⟩

variable {e e' : Engine}

theorem through_sameAnswers {α : Type} (e : Engine) (s : Native.Symbol) (args : List Native.Arg)
    (refuse : Status → α) (act : Simulator → α × Simulator)
    (h : SameAnswers e { e with sim := (act e.sim).2 }) :
    SameAnswers e (e.through s args refuse act).2.1 := by
  obtain ⟨calls, hc⟩ | ⟨status, calls, -, hc⟩ := e.through_cases s args refuse act
  · rw [hc]
    exact h
  · rw [hc]
    exact .refl e

theorem history_sameAnswers (e : Engine) (q : History.Query) : SameAnswers e (e.history q).2.1 :=
  through_sameAnswers e _ _ _ _ ⟨rfl, rfl, rfl, rfl, rfl, rfl, rfl⟩

theorem snapshot_sameAnswers (e : Engine) (entities : List (UInt32 × UInt32)) (fields : List UInt16)
    (flags : UInt32) (slots : Array EntityRecord) :
    SameAnswers e (e.snapshot entities fields flags slots).2.1 := by
  unfold snapshot
  split
  · exact .refl e
  · refine through_sameAnswers e _ _ _ _ ?_
    unfold Simulator.snapshot
    split
    · exact .refl e
    · simp only
      split <;> exact ⟨rfl, rfl, rfl, rfl, rfl, rfl, rfl⟩

theorem SameAnswers.history (h : SameAnswers e e') (q : History.Query) :
    (e'.history q).1 = (e.history q).1 := by
  unfold Engine.history through
  rw [h.connection]
  split
  · simp [Simulator.history, h.batches, h.historyStatus, h.cursor]
  · simp only
    split
    · simp [Simulator.history, h.batches, h.historyStatus, h.cursor]
    · rfl

end Engine

def Simulator.latestSamples (s : Simulator) (entities : List (UInt32 × UInt32)) (fields : List UInt16) :
    Except Failure (List Sample) :=
  if s.snapshotStatus.isOk then
    .ok ((entities.flatMap fun (g, i) => fields.map (s.lookup g i)).map .ofEntityRecord)
  else .error (.ofStatus "dcgmEntitiesGetLatestValues" s.snapshotStatus)

def Engine.latestSamples (e : Engine) (entities : List (UInt32 × UInt32)) (fields : List UInt16) :
    Except Failure (List Sample) :=
  match e.connection with
  | none => e.sim.latestSamples entities fields
  | some c =>
    if c.codeOf .latestValues = 0 then e.sim.latestSamples entities fields
    else .error (.ofStatus "dcgmEntitiesGetLatestValues" (.ofCode (c.codeOf .latestValues)))

section latestSamples

variable {entities : List (UInt32 × UInt32)} {fields : List UInt16} {slots : Array EntityRecord}
  (fits : slots.size = entities.length * fields.length)
include fits

theorem Simulator.snapshot_result (s : Simulator) :
    Snapshot.result (s.snapshot entities fields slots).1.1 (s.snapshot entities fields slots).1.2 =
      s.latestSamples entities fields := by
  have hnot : ¬ slots.size ≠ entities.length * fields.length := not_not.mpr fits
  unfold Simulator.snapshot Simulator.latestSamples
  rw [if_neg hnot]
  cases hok : s.snapshotStatus.isOk with
  | true =>
    simp only [hok, if_true]
    exact Snapshot.result_of_ok rfl _
  | false =>
    simp only [hok, Bool.false_eq_true, if_false]
    exact Snapshot.result_of_bad hok slots

theorem Engine.snapshot_result (e : Engine) (flags : UInt32) :
    Snapshot.result (e.snapshot entities fields flags slots).1.1
      (e.snapshot entities fields flags slots).1.2 = e.latestSamples entities fields := by
  have hnot : ¬ slots.size ≠ entities.length * fields.length := not_not.mpr fits
  unfold Engine.snapshot Engine.latestSamples Engine.through
  rw [if_neg hnot]
  cases e.connection with
  | none => exact e.sim.snapshot_result fits
  | some c =>
    by_cases hc : c.codeOf .latestValues = 0
    · simp only [hc, if_true]
      exact e.sim.snapshot_result fits
    · have hbad : (Status.ofCode (c.codeOf .latestValues)).isOk = false := Status.ofCode_failed.mpr hc
      simp only [hc, if_false]
      exact Snapshot.result_of_bad hbad slots

end latestSamples

theorem Engine.SameAnswers.latestSamples {e e' : Engine} (h : SameAnswers e e')
    (entities : List (UInt32 × UInt32)) (fields : List UInt16) :
    e'.latestSamples entities fields = e.latestSamples entities fields := by
  have hlookup (g i : UInt32) : e'.sim.lookup g i = e.sim.lookup g i := by
    funext f
    simp only [Simulator.lookup, h.latest]
  have hsim : e'.sim.latestSamples entities fields = e.sim.latestSamples entities fields := by
    simp only [Simulator.latestSamples, h.snapshotStatus, hlookup]
  simp only [Engine.latestSamples, h.connection, hsim]

namespace Monitor

variable {m n : Monitor} {engine : Option Nat} {e : Nat}

structure SameAnswers (m m' : Monitor) : Prop where
  active : m'.active = m.active
  engines : ∀ e, (m.engines e).SameAnswers (m'.engines e)

theorem SameAnswers.refl (m : Monitor) : SameAnswers m m := ⟨rfl, fun _ => .refl _⟩

theorem SameAnswers.trans {o : Monitor} (h : SameAnswers m n) (h' : SameAnswers n o) :
    SameAnswers m o :=
  ⟨h'.active.trans h.active, fun e => (h.engines e).trans (h'.engines e)⟩

theorem SameAnswers.resolve (h : SameAnswers m n) (engine : Option Nat) :
    n.resolve engine = m.resolve engine := by
  unfold Monitor.resolve
  cases engine with
  | none => simp only [h.active]
  | some e => simp only [(h.engines e).owned]

theorem sameAnswers_call {α : Type} (m : Monitor) (e : Nat) (what : EngineCall)
    (answer : α → Option Status) (act : Engine → α × Engine × List Native.Call)
    (h : (m.engines e).SameAnswers (act (m.engines e)).2.1) :
    SameAnswers m (m.call e what answer act).2 := by
  refine ⟨rfl, fun k => ?_⟩
  by_cases hk : k = e
  · subst hk
    simpa [call, adjust, note, noteNative] using h
  · simpa [call, adjust, note, noteNative, hk] using Engine.SameAnswers.refl (m.engines k)

theorem collect_result (he : m.resolve engine = .ok e) (q : History.Query) :
    (m.collect engine q none).1 = q.result ((m.engines e).history q).1 := by
  simp only [collect, he]
  rfl

theorem snapshot_result {entities : List Entity} {fields : List UInt16} {k : Nat}
    (he : m.resolve engine = .ok e) (hk : Snapshot.slots entities fields = .ok k) (flags : UInt32) :
    (m.snapshot engine entities fields flags none).1 =
      (m.engines e).latestSamples (entities.map Entity.codes) fields := by
  simp only [snapshot, he, hk]
  exact Engine.snapshot_result ((m.reserve.size_lend k).trans (Snapshot.slots_exact hk)) (m.engines e) flags

theorem SameAnswers.collect (h : SameAnswers m n) (engine : Option Nat) (q : History.Query) :
    (n.collect engine q none).1 = (m.collect engine q none).1 := by
  cases he : m.resolve engine with
  | error f => simp only [Monitor.collect, he, (h.resolve engine).trans he]
  | ok e =>
    rw [collect_result he, collect_result ((h.resolve engine).trans he), (h.engines e).history q]

theorem SameAnswers.snapshot (h : SameAnswers m n) (engine : Option Nat) (entities : List Entity)
    (fields : List UInt16) (flags : UInt32) :
    (n.snapshot engine entities fields flags none).1 =
      (m.snapshot engine entities fields flags none).1 := by
  cases he : m.resolve engine with
  | error f => simp only [Monitor.snapshot, he, (h.resolve engine).trans he]
  | ok e =>
    cases hk : Snapshot.slots entities fields with
    | error f => simp only [Monitor.snapshot, he, (h.resolve engine).trans he, hk]
    | ok k =>
      rw [snapshot_result he hk, snapshot_result ((h.resolve engine).trans he) hk,
        (h.engines e).latestSamples]

theorem collect_sameAnswers (m : Monitor) (engine : Option Nat) (q : History.Query) :
    SameAnswers m (m.collect engine q none).2 := by
  unfold Monitor.collect
  split
  · exact .refl m
  · rename_i e _
    have hasked : SameAnswers m (m.askHistory e q none).2 :=
      sameAnswers_call m e (.history q.group q.fieldGroup q.since) _ _
        ((m.engines e).history_sameAnswers q)
    exact hasked

theorem snapshot_sameAnswers (m : Monitor) (engine : Option Nat) (entities : List Entity)
    (fields : List UInt16) (flags : UInt32) :
    SameAnswers m (m.snapshot engine entities fields flags none).2 := by
  unfold Monitor.snapshot
  split
  · exact .refl m
  · split
    · exact .refl m
    · rename_i e _ _ k _
      let lent : Monitor := { m with reserve := (m.reserve.lend k).2 }
      have hasked : SameAnswers lent (lent.askSnapshot e (entities.map Entity.codes) fields flags
          (m.reserve.lend k).1.slots none).2 :=
        sameAnswers_call lent e (.snapshot (entities.map Entity.codes) fields flags
          (m.reserve.lend k).1.slots.size) _ _ ((m.engines e).snapshot_sameAnswers _ _ _ _)
      exact ⟨hasked.active, hasked.engines⟩

end Monitor

def Action.isQuery : Action → Bool
  | .collect _ _ script => script.isNone
  | .snapshot _ _ _ _ script => script.isNone
  | _ => false

namespace Monitor

variable {m m' : Monitor}

theorem act?_sameAnswers {a : Action} (query : a.isQuery = true) (h : m.act? a = some m') :
    SameAnswers m m' := by
  cases a with
  | collect engine q script =>
    cases script with
    | none =>
      cases h
      exact collect_sameAnswers m engine q
    | some reply => cases query
  | snapshot engine entities fields flags script =>
    cases script with
    | none =>
      cases h
      exact snapshot_sameAnswers m engine entities fields flags
    | some answer => cases query
  | _ => cases query

theorem run?_sameAnswers {as : List Action} (queries : ∀ a ∈ as, a.isQuery = true)
    (h : m.run? as = some m') : SameAnswers m m' := by
  induction as generalizing m with
  | nil =>
    cases h
    exact .refl _
  | cons a as ih =>
    rw [run?_cons, Option.bind_eq_some_iff] at h
    obtain ⟨n, ha, hn⟩ := h
    have hfirst := act?_sameAnswers (queries a List.mem_cons_self) ha
    exact hfirst.trans (ih (fun b hb => queries b (List.mem_cons_of_mem _ hb)) hn)

theorem resolve_adjustSim (m : Monitor) (e : Nat) (f : Simulator → Simulator) (engine : Option Nat) :
    (m.adjustSim e f).resolve engine = m.resolve engine := by
  have howned (k : Nat) : ((m.adjustSim e f).engines k).owned = (m.engines k).owned := by
    by_cases hk : k = e
    · simp [adjustSim, adjust, hk]
    · simp [adjustSim, adjust, hk]
  unfold resolve
  simp only [howned]
  rfl

theorem adjustSim_engine (m : Monitor) (e : Nat) (f : Simulator → Simulator) :
    (m.adjustSim e f).engines e = { m.engines e with sim := f (m.engines e).sim } := by
  simp [adjustSim, adjust]

theorem history_simulated {g : Engine} (simulated : g.connection = none) (q : History.Query) :
    (g.history q).1 = ⟨g.sim.batches.map Batch.delivery, some g.sim.cursor, g.sim.historyStatus⟩ := by
  unfold Engine.history Engine.through
  simp [simulated, Simulator.history_goOn]

section agreement

open Simulator (batchOf pushAll storeAll samples Covers)

variable {n : Monitor} {engine : Option Nat} {e k limit : Nat} {entities : List Entity}
  {fields : List UInt16} {record : Entity → UInt16 → Record} {order : List (Entity × UInt16)}

theorem sim_pushed (idle : (m.engines e).sim.batches = []) :
    ((m.adjustSim e (·.pushAll entities fields record)).engines e).sim =
      { (m.engines e).sim with batches := entities.map (batchOf fields record) } := by
  rw [adjustSim_engine, Simulator.pushAll_eq, idle, List.nil_append]

theorem collect_pushed (he : m.resolve engine = .ok e) (simulated : (m.engines e).connection = none)
    (idle : (m.engines e).sim.batches = []) (hok : (m.engines e).sim.historyStatus = .ok)
    {q : History.Query} (limited : q.limit ≤ Limits.historyValues)
    (enough : entities.length * fields.length ≤ q.limit) :
    ((m.adjustSim e (·.pushAll entities fields record)).collect engine q none).1 =
      .ok ⟨(samples entities fields record).toArray, (m.engines e).sim.cursor⟩ := by
  let pushed := m.adjustSim e (·.pushAll entities fields record)
  have hsim : (pushed.engines e).sim =
      { (m.engines e).sim with batches := entities.map (batchOf fields record) } := sim_pushed idle
  have hconnection : (pushed.engines e).connection = none := by
    rw [adjustSim_engine]
    exact simulated
  rw [collect_result ((resolve_adjustSim m e _ engine).trans he), history_simulated hconnection, hsim]
  obtain ⟨-, -, -, complete⟩ := (History.result_ended limited
    ⟨(entities.map (batchOf fields record)).map Batch.delivery, some (m.engines e).sim.cursor,
      (m.engines e).sim.historyStatus⟩).exactly
  refine (complete _).mpr ⟨?_, hok, ?_⟩
  · rw [Simulator.gathered_pushed, Simulator.length_samples]
    exact enough
  · rw [Simulator.gathered_pushed]
    rfl

theorem staged_pushed (limited : limit ≤ Limits.historyValues)
    (enough : entities.length * fields.length ≤ limit) :
    ((History.Staging.start limit).receiveAll
      ((entities.map (batchOf fields record)).map Batch.delivery)).values.toList =
        samples entities fields record := by
  have staged := History.staged_receiveAll limited
    ((entities.map (batchOf fields record)).map Batch.delivery)
  have hfew : ¬ ((History.Staging.start limit).receiveAll
      ((entities.map (batchOf fields record)).map Batch.delivery)).overflowed = true := by
    rw [staged.overflowed, Simulator.gathered_pushed, Simulator.length_samples]
    exact Nat.not_lt.mpr enough
  rw [staged.values (by simpa using hfew), Simulator.gathered_pushed]

theorem snapshot_simulated (hk : n.resolve engine = .ok k)
    (simulated : (n.engines k).connection = none) (change : Simulator → Simulator)
    (hok : (change (n.engines k).sim).snapshotStatus = .ok) (some_entity : entities ≠ [])
    (some_field : fields ≠ []) (fits : entities.length * fields.length ≤ Limits.snapshotValues)
    (flags : UInt32) :
    ((n.adjustSim k change).snapshot engine entities fields flags none).1 =
      .ok (entities.flatMap fun x => fields.map fun f =>
        .ofEntityRecord ((change (n.engines k).sim).lookup x.codes.1 x.codes.2 f)) := by
  have hslots := Snapshot.slots_eq some_entity some_field fits
  have hisOk : (change (n.engines k).sim).snapshotStatus.isOk = true := by rw [hok]; rfl
  rw [snapshot_result ((resolve_adjustSim n k _ engine).trans hk) hslots flags]
  simp only [Engine.latestSamples, adjustSim_engine, simulated, Simulator.latestSamples, hisOk, if_true,
    List.map_flatMap, List.flatMap_map, List.map_map]
  rfl

theorem snapshot_stored (hk : n.resolve engine = .ok k) (simulated : (n.engines k).connection = none)
    (hok : (n.engines k).sim.snapshotStatus = .ok) (some_entity : entities ≠ [])
    (some_field : fields ≠ []) (fits : entities.length * fields.length ≤ Limits.snapshotValues)
    (covers : Covers order entities fields record) (flags : UInt32) :
    ((n.adjustSim k (·.storeAll order record)).snapshot engine entities fields flags none).1 =
      .ok (samples entities fields record) := by
  have hstatus : ((n.engines k).sim.storeAll order record).snapshotStatus = .ok := by
    rw [Simulator.storeAll_eq, Simulator.storeEach_status, hok]
  rw [snapshot_simulated hk simulated _ hstatus some_entity some_field fits flags,
    Simulator.samples_stored _ covers]

/-- On simulated engines with nothing else queued, whatever records the entities have: within a limit of
at least all of them, collecting the batches with the records of one entity each returns the samples that
are returned for the same records as the latest ones, in whatever order those were stored. What is staged
is the same although the engine overwrites each batch that it has handed out; its own batches stay, and
no number of queries changes what any later one returns. -/
theorem history_agrees_with_latest {m n : Monitor} {engine engine' : Option Nat} {e k : Nat}
    (he : m.resolve engine = .ok e) (simulated : (m.engines e).connection = none)
    (idle : (m.engines e).sim.batches = []) (hok : (m.engines e).sim.historyStatus = .ok)
    (hk : n.resolve engine' = .ok k) (simulated' : (n.engines k).connection = none)
    (hok' : (n.engines k).sim.snapshotStatus = .ok) {entities : List Entity} {fields : List UInt16}
    {record : Entity → UInt16 → Record} {order : List (Entity × UInt16)} (some_entity : entities ≠ [])
    (some_field : fields ≠ []) (fits : entities.length * fields.length ≤ Limits.snapshotValues)
    (covers : Covers order entities fields record) {limit : Nat}
    (enough : entities.length * fields.length ≤ limit) (q : History.Query) (flags : UInt32) :
    ∃ pushed stored values, pushed = m.adjustSim e (·.pushAll entities fields record) ∧
      stored = n.adjustSim k (·.storeAll order record) ∧ values = samples entities fields record ∧
      (pushed.collect engine (q.limited limit) none).1 =
        .ok ⟨values.toArray, (m.engines e).sim.cursor⟩ ∧
      (stored.snapshot engine' entities fields flags none).1 = .ok values ∧
      (∃ staged, staged.values.toList = values ∧
        handOut History.Staging.receive (pushed.engines e).sim.batches (.start (q.limited limit).limit) =
          ((pushed.engines e).sim.batches.map Batch.overwritten, staged)) ∧
      ((pushed.collect engine (q.limited limit) none).2.engines e).sim.batches =
        (pushed.engines e).sim.batches ∧
      ∀ (o o' : Monitor) as, (∀ a ∈ as, Action.isQuery a = true) → o.run? as = some o' →
        (∀ engine q, (o'.collect engine q none).1 = (o.collect engine q none).1) ∧
        ∀ engine entities fields flags, (o'.snapshot engine entities fields flags none).1 =
          (o.snapshot engine entities fields flags none).1 := by
  let pushed := m.adjustSim e (·.pushAll entities fields record)
  have hbatches : (pushed.engines e).sim.batches = entities.map (batchOf fields record) :=
    congrArg Simulator.batches (sim_pushed idle)
  have hlimited : (q.limited limit).limit ≤ Limits.historyValues := Nat.min_le_right _ _
  have hfits : entities.length * fields.length ≤ (q.limited limit).limit := by
    have hceilings : Limits.snapshotValues ≤ Limits.historyValues := by decide
    exact Nat.le_min.mpr ⟨enough, fits.trans hceilings⟩
  refine ⟨pushed, _, _, rfl, rfl, rfl, collect_pushed he simulated idle hok hlimited hfits,
    snapshot_stored hk simulated' hok' some_entity some_field fits covers flags,
    ⟨_, ?_, handOut_receive _ _⟩, ((collect_sameAnswers pushed engine _).engines e).batches, ?_⟩
  · rw [hbatches]
    exact staged_pushed hlimited hfits
  · intro o o' as queries h
    have same := run?_sameAnswers queries h
    exact ⟨fun engine q => same.collect engine q,
      fun engine entities fields flags => same.snapshot engine entities fields flags⟩

theorem two_devices_agree_with_latest : ∃ (pushed stored : Monitor) (values : List Sample),
    values.length = 4 ∧ (pushed.collect (some 0) ⟨1, 2, 0, 4⟩ none).1 = .ok ⟨values.toArray, 0⟩ ∧
    (stored.snapshot (some 0) [.gpu 0, .gpu 1] [150, 50] 0 none).1 = .ok values := by
  let m : Monitor := ({} : Monitor).addEngine {}
  let entities := [Entity.gpu 0, Entity.gpu 1]
  let fields : List UInt16 := [150, 50]
  let record (x : Entity) (f : UInt16) : Record :=
    if f = 150 then .ofInt f 7 (Int64.ofNat x.id.toNat) else .ofText f 7 "H100"
  have he : m.resolve (some 0) = .ok 0 := by simp [m, resolve, addEngine]
  have simulated : (m.engines 0).connection = none := by simp [m, addEngine]
  have idle : (m.engines 0).sim.batches = [] := by simp [m, addEngine]
  have hok : (m.engines 0).sim.historyStatus = .ok := by simp [m, addEngine]
  have hok' : (m.engines 0).sim.snapshotStatus = .ok := by simp [m, addEngine]
  have covers : Covers (entities.product fields).reverse entities fields record := by
    refine ⟨by decide, fun x f => by simp [List.product, and_comm], fun x _ f _ => ?_⟩
    by_cases hf : f = 150 <;> simp [record, hf, Record.ofInt, Record.ofText]
  obtain ⟨pushed, stored, values, -, -, hvalues, collected, latest, -⟩ :=
    history_agrees_with_latest he simulated idle hok he simulated hok' (by decide) (by decide)
      (by decide) covers (show entities.length * fields.length ≤ 4 by decide) ⟨1, 2, 0, 0⟩ 0
  refine ⟨pushed, stored, values, ?_, collected, latest⟩
  rw [hvalues, Simulator.length_samples]
  rfl

end agreement

end Monitor

end GpuTelemetry
