import GpuTelemetry.Proofs.LiveRegistrations

namespace GpuTelemetry

theorem Thresholds.adopt_param (t other : Thresholds) (cs : List Condition) (c : Condition) :
    (t.adopt other cs).param c = if c ∈ cs then other.param c else t.param c := by
  cases c with
  | retiredPages | thermal | power =>
    simp only [param, level?, adopt]
    split <;> rfl
  | _ => simp [param, level?]

theorem Thresholds.policy_param {t : Thresholds} {cs : List Condition} {c : Condition} (h : c ∈ cs) :
    (t.policy cs).params c = t.param c := by
  simp [policy, h]

namespace Monitor

variable {m m' : Monitor}

def OnRecord (m : Monitor) (key : GroupKey) (c : Condition) : Prop :=
  ∃ p, m.policy key = some p ∧ p.params c = (m.groups key).thresholds.param c

theorem policyFor_param (h : m.Counted) (r : Request) {s : Subscription} (hs : s ∈ m.subscriptions)
    (hk : s.key = r.key) (holds : s.phase.holds = true) {c : Condition} (hc : c ∈ s.conditions) :
    (m.policyFor r).params c =
      if c ∈ r.conditions then r.thresholds.param c else (m.groups r.key).thresholds.param c := by
  have hheld := policyFor_covers h r hs hk holds c hc
  have hmem : c ∈ Condition.distinct ((m.groups r.key).conditions ++ r.conditions) := by
    simpa [policyFor, Thresholds.policy] using hheld
  rw [policyFor, Thresholds.policy_param hmem, agreed, Thresholds.adopt_param]

/-- A subscribe call that fails changes no record and no other group. The policy of its own group stays
just when the engine has refused to set one or had the same in effect, and the limit of a condition that
a live subscription holds stays the one on record just when no policy was set or the call does not name
another limit for it. -/
theorem failed_subscribe_policy_iff (h : Reachable m) {i : Nat} {r : Request}
    (waits : m.requests[i]? = some r) (entered : m.act? (.move (.enter i)) = some m') {f : Failure}
    (failed : m'.outcome? r.ticket = some (.error f)) :
    m'.groups = m.groups ∧
    (∀ key, key.engine < m.engineCount → key ≠ r.key → m'.policy key = m.policy key) ∧
    (m'.policy r.key = m.policy r.key ↔
      (m.askPolicy r).1.isOk = false ∨ m.policy r.key = some (m.policyFor r)) ∧
    ∀ s ∈ m.subscriptions, s.key = r.key → s.phase.holds = true → ∀ c ∈ s.conditions,
      m.OnRecord r.key c → (m'.OnRecord r.key c ↔
        (m.askPolicy r).1.isOk = false ∨ c ∉ r.conditions ∨
          r.thresholds.param c = (m.groups r.key).thresholds.param c) := by
  have known (q : Request) (hq : q ∈ m.requests) := (h.proper.requests q hq).engine
  have hr := known r (List.mem_of_getElem? waits)
  obtain ⟨q, hq, -, hend⟩ := enter?_entered known entered
  obtain rfl : r = q := Option.some.inj (waits.symm.trans hq)
  cases hend with
  | policyRefused _ refused groups engines list outcome =>
    have same (key : GroupKey) (hk : key.engine < m.engineCount) := engines.policy hk
    refine ⟨groups, fun key hk _ => same key hk, by simp [same r.key hr, refused], ?_⟩
    intro s _ _ _ c _ hon
    simp only [OnRecord, same r.key hr, groups, refused, true_or, iff_true]
    exact hon
  | registrationRefused _ accepted groups engines list outcome =>
    have hset : m'.policy r.key = some (m.policyFor r) := by
      rw [engines.policies r.key hr, assign_self]
    refine ⟨groups, fun key hk hne => ?_, ?_, ?_⟩
    · rw [engines.policies key hk, assign_of_ne _ _ hne]
    · rw [hset, accepted]
      simp [eq_comm]
    · intro s hs hk holds c hc _
      have hparam := policyFor_param h.counted r hs hk holds hc
      have hon : m'.OnRecord r.key c ↔
          (m.policyFor r).params c = (m.groups r.key).thresholds.param c := by
        simp [OnRecord, hset, groups]
      rw [hon, hparam, accepted]
      by_cases hnamed : c ∈ r.conditions <;> simp [hnamed]
  | joined groups engines list outcome =>
    rw [outcome] at failed
    cases failed

def overheated : List Action :=
  [.addEngine, .activate 0, .addToken none,
    .ask 0 { group := 5, conditions := [.thermal], thresholds := { temperature := 90 }, token := 0 },
    .move (.enter 0), .set 0 (.registerStatus .notSupported),
    .ask 1 { group := 5, conditions := [.thermal], thresholds := { temperature := 70 }, token := 0 }]

theorem overheated_call : ∃ m m' r f, run? {} overheated = some m ∧ m.requests[0]? = some r ∧
    m.act? (.move (.enter 0)) = some m' ∧ m'.outcome? r.ticket = some (.error f) ∧
    m'.groups = m.groups ∧ (m'.policy r.key = m.policy r.key ↔
      (m.askPolicy r).1.isOk = false ∨ m.policy r.key = some (m.policyFor r)) := by
  let m := (run? {} overheated).get (by decide +kernel)
  let m' := (m.act? (.move (.enter 0))).get (by decide +kernel)
  let r := m.requests[0]?.get (by decide +kernel)
  have hm : run? {} overheated = some m := by simp [m]
  have entered : m.act? (.move (.enter 0)) = some m' := by simp [m']
  have waits : m.requests[0]? = some r := by simp [r]
  have failed : m'.outcome? r.ticket = some (.error (.engine "dcgmPolicyRegister_v2" .notSupported)) := by
    decide +kernel
  obtain ⟨groups, -, policy, -⟩ := failed_subscribe_policy_iff ⟨overheated, hm⟩ waits entered failed
  exact ⟨m, m', r, _, hm, waits, entered, failed, groups, policy⟩

def limit? (m : Monitor) (key : GroupKey) (c : Condition) : Option Param :=
  (m.policy key).map fun p => p.params c

/-- The call for 70 degrees fails, and yet the engine goes by its limit from then on. -/
theorem failed_call_replaces_limit : ∃ m m' f, run? {} overheated = some m ∧
    m.act? (.move (.enter 0)) = some m' ∧ m'.outcome? 1 = some (.error f) ∧
    m.limit? ⟨0, 5⟩ .thermal = some (.level 90) ∧ m'.limit? ⟨0, 5⟩ .thermal = some (.level 70) ∧
    (m'.groups ⟨0, 5⟩).thresholds.temperature = 90 := by
  let m := (run? {} overheated).get (by decide +kernel)
  let m' := (m.act? (.move (.enter 0))).get (by decide +kernel)
  have hm : run? {} overheated = some m := by simp [m]
  have entered : m.act? (.move (.enter 0)) = some m' := by simp [m']
  have failed : m'.outcome? 1 = some (.error (.engine "dcgmPolicyRegister_v2" .notSupported)) := by
    decide +kernel
  refine ⟨m, m', _, hm, entered, failed, ?_, ?_, ?_⟩ <;> decide +kernel

end Monitor

end GpuTelemetry
