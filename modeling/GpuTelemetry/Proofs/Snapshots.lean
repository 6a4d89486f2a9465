import GpuTelemetry.Proofs.Frames
import GpuTelemetry.Proofs.Lending

namespace GpuTelemetry

namespace Snapshot

variable {entities : List Entity} {fields : List UInt16} {n : Nat}

theorem slots_le (h : slots entities fields = .ok n) : n ≤ Limits.snapshotValues := by
  simp only [slots] at h
  split at h
  · cases h
  · split at h
    · cases h
    · split at h
      · cases h
      · rename_i hle
        cases h
        exact Nat.le_of_not_lt hle

theorem slots_exact (h : slots entities fields = .ok n) :
    n = (entities.map Entity.codes).length * fields.length := by
  have hle := slots_le h
  have hword : Limits.snapshotValues < Limits.maxWord := by decide
  simp only [slots] at h
  repeat' split at h
  all_goals cases h
  rw [List.length_map]
  unfold Limits.saturate at hle ⊢
  omega

theorem slots_refused {f : Failure} (h : slots entities fields = .error f) : f.status? = none := by
  simp only [slots] at h
  repeat' split at h
  all_goals cases h
  all_goals rfl

theorem slots_eq (hentities : entities ≠ []) (hfields : fields ≠ [])
    (hmax : entities.length * fields.length ≤ Limits.snapshotValues) :
    slots entities fields = .ok (entities.length * fields.length) := by
  have hword : Limits.snapshotValues ≤ Limits.maxWord := by decide
  have hexact : Limits.saturate (entities.length * fields.length) =
      entities.length * fields.length := by
    unfold Limits.saturate
    omega
  have hentities' : entities.isEmpty = false := by simpa using hentities
  have hfields' : fields.isEmpty = false := by simpa using hfields
  simp [slots, hexact, hentities', hfields', Nat.not_lt.mpr hmax]

theorem Answer.toList_fill_replicate (a : Answer) (n : Nat) (x : EntityRecord) :
    (a.fill (Array.replicate n x)).toList = (List.range n).map fun i => (a.written i).getD x := by
  apply List.ext_getElem
  · simp [fill]
  · intro i hi _
    simp [fill]

theorem result_of_ok {status : Status} (h : status = .ok) (slots : Array EntityRecord) :
    result status slots = .ok (slots.toList.map .ofEntityRecord) := by
  subst h
  rfl

theorem result_of_bad {status : Status} (h : status.isOk = false) (slots : Array EntityRecord) :
    result status slots = .error (.ofStatus "dcgmEntitiesGetLatestValues" status) := by
  simp [result, Status.check, h]

end Snapshot

namespace Monitor

variable {m : Monitor} {engine : Option Nat} {e n : Nat} {entities : List Entity}
  {fields : List UInt16} {flags : UInt32} {script : Option (Array EntityRecord → Snapshot.Answer)}

theorem snapshot_of_blank (he : m.resolve engine = .ok e)
    (hslots : Snapshot.slots entities fields = .ok n)
    (hblank : (m.reserve.lend n).1.slots = Array.replicate n .blank) :
    (m.snapshot engine entities fields flags script).1 =
      let answer := (m.askSnapshot e (entities.map Entity.codes) fields flags
        (Array.replicate n .blank) script).1
      Snapshot.result answer.1 answer.2 := by
  simp only [snapshot, he, hslots, hblank]
  rfl

theorem snapshot_sound {out : List (Loan EntityRecord)}
    (h : Lending.Sound Snapshot.emptyReserve ⟨m.reserve, out⟩) :
    Lending.Sound Snapshot.emptyReserve
      ⟨(m.snapshot engine entities fields flags script).2.reserve, out⟩ := by
  unfold snapshot
  split
  · exact h
  · split
    · exact h
    · rename_i e _ _ n hslots
      have hn : n ≤ Limits.maxWord := (Snapshot.slots_le hslots).trans (by decide)
      have hlent := h.lent hn (Prod.mk.eta (p := m.reserve.lend n)).symm
      exact hlent.givenBack (by decide) _ fun l hl => List.mem_append_left _ hl

end Monitor

structure Shared where
  monitor : Monitor := {}
  out : List (Loan EntityRecord) := []

namespace Shared

inductive Step where
  | act (a : Action)
  | use (u : Lending.Use EntityRecord)

def lending (s : Shared) : Lending EntityRecord := ⟨s.monitor.reserve, s.out⟩

def step? (s : Shared) : Step → Option Shared
  | .act a => (s.monitor.act? a).map fun m => { s with monitor := m }
  | .use u => (s.lending.use? u).map fun l => ⟨{ s.monitor with reserve := l.reserve }, l.out⟩

def run? (s : Shared) (steps : List Step) : Option Shared := steps.foldlM step? s

variable {s s' : Shared}

theorem sound_step {step : Step} (h : s.lending.Sound Snapshot.emptyReserve)
    (hs : s.step? step = some s') : s'.lending.Sound Snapshot.emptyReserve := by
  cases step with
  | act a =>
    obtain ⟨m, ha, rfl⟩ := Option.map_eq_some_iff.mp hs
    cases a with
    | snapshot =>
      cases ha
      exact Monitor.snapshot_sound h
    | _ =>
      have hsame := (Monitor.act?_frame ha).reserve rfl
      rw [lending, hsame]
      exact h
  | use u =>
    obtain ⟨l, hu, rfl⟩ := Option.map_eq_some_iff.mp hs
    exact h.use (by decide) hu

theorem sound_of_run {steps : List Step} (h : run? {} steps = some s) :
    s.lending.Sound Snapshot.emptyReserve :=
  foldlM_induction (P := fun _ s => s.lending.Sound Snapshot.emptyReserve) (.start rfl)
    (fun _ _ _ _ _ hn hs => sound_step hn hs) steps s h

theorem lent_blank (h : s.lending.Sound Snapshot.emptyReserve) (n : Nat) :
    (s.monitor.reserve.lend n).1.slots = Array.replicate n .blank := by
  obtain ⟨hblank, -⟩ := h.idle.lent (Prod.mk.eta (p := s.monitor.reserve.lend n)).symm
  have hlayout : s.lending.reserve.layout = Snapshot.layout := congrArg (·.layout) h.config
  rw [hblank, hlayout]
  rfl

/-- Two requests of the same size, after whatever histories, tell the same if their engines do the same
with blank slots. -/
theorem snapshot_without_trace (steps : List Step) (s : Shared) (h : run? {} steps = some s)
    (engine : Option Nat) (e : Nat) (he : s.monitor.resolve engine = .ok e) (entities : List Entity)
    (fields : List UInt16) (flags : UInt32) :
    (∀ n (answer : Array EntityRecord → Snapshot.Answer), entities ≠ [] → fields ≠ [] →
      entities.length * fields.length = n → n ≤ Limits.snapshotValues →
      (answer (Array.replicate n .blank)).status = .ok →
      (s.monitor.snapshot engine entities fields flags (some answer)).1 =
        .ok ((List.range n).map fun i =>
          .ofEntityRecord (((answer (Array.replicate n .blank)).written i).getD .blank))) ∧
    ∀ steps' s' engine' e' script script', run? {} steps' = some s' →
      s'.monitor.resolve engine' = .ok e' →
      (∀ n, (s.monitor.askSnapshot e (entities.map Entity.codes) fields flags
          (Array.replicate n .blank) script).1 =
        (s'.monitor.askSnapshot e' (entities.map Entity.codes) fields flags
          (Array.replicate n .blank) script').1) →
      (s.monitor.snapshot engine entities fields flags script).1 =
        (s'.monitor.snapshot engine' entities fields flags script').1 := by
  have hs := sound_of_run h
  constructor
  · intro n answer hentities hfields hn hmax hok
    subst hn
    rw [Monitor.snapshot_of_blank he (Snapshot.slots_eq hentities hfields hmax) (lent_blank hs _)]
    apply (Snapshot.result_of_ok hok _).trans
    have hfill := Snapshot.Answer.toList_fill_replicate
      (answer (Array.replicate (entities.length * fields.length) .blank))
      (entities.length * fields.length) .blank
    simp only [Monitor.askSnapshot, Monitor.call, hfill, List.map_map]
    rfl
  · intro steps' s' engine' e' script script' h' he' hsame
    -- the histories only tell in the slots, and both find them blank
    have hs' := sound_of_run h'
    cases hslots : Snapshot.slots entities fields with
    | error f => simp only [Monitor.snapshot, he, he', hslots]
    | ok n =>
      rw [Monitor.snapshot_of_blank he hslots (lent_blank hs n),
        Monitor.snapshot_of_blank he' hslots (lent_blank hs' n), hsame n]

def afterFailure : List Step :=
  [.act .addEngine,
    .act (.snapshot (some 0) [⟨.gpu, 1⟩] [150, 155] 0
      (some fun _ => ⟨.timeout, fun _ => some { field := 150, status := 7 }⟩)),
    .use (.acquire 1), .use (.write 0 0 { field := 155, id := 2 }), .use (.release 0)]

theorem failed_request_leaves_no_trace : ∃ s, run? {} afterFailure = some s ∧
    s.monitor.reserve.idle.length = 1 ∧
    (s.monitor.snapshot (some 0) [⟨.gpu, 1⟩] [150, 155] 0
        (some fun _ => ⟨.ok, fun i => if i = 1 then some { field := 155, id := 1 } else none⟩)).1 =
      .ok [.ofEntityRecord .blank, .ofEntityRecord { field := 155, id := 1 }] := by
  refine ⟨_, rfl, rfl, ?_⟩
  exact (snapshot_without_trace afterFailure _ rfl (some 0) 0 rfl [⟨.gpu, 1⟩] [150, 155] 0).1 2 _
    (by simp) (by simp) rfl (by decide) rfl

end Shared

end GpuTelemetry
