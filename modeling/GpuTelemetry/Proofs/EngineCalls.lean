import GpuTelemetry.Engine

namespace GpuTelemetry

theorem Status.ofCode_isOk (c : Int32) : (Status.ofCode c).isOk = true ↔ c = 0 := by
  constructor
  · intro h
    unfold ofCode at h
    split at h
    · rename_i e he
      have hcode : e.code = c := by simpa using List.find?_some he
      have hmem := List.mem_of_find?_eq_some he
      have hzero : ∀ e ∈ table, e.status.isOk = true → e.code = 0 := by decide
      rw [← hcode]
      exact hzero e hmem h
    · simp [isOk] at h
  · rintro rfl
    rfl

theorem Status.check_cases (status : Status) (call : String) :
    (status.isOk = true ∧ status.check call = .ok ()) ∨
      (status.isOk = false ∧ status.check call = .error (.ofStatus call status)) := by
  unfold check
  cases h : status.isOk <;> simp

theorem Status.ofCode_failed {code : Int32} : (ofCode code).isOk = false ↔ code ≠ 0 := by
  rw [Bool.eq_false_iff, ne_eq, ofCode_isOk]

theorem Status.check_code (code : Int32) (call : String) :
    (code = 0 ∧ (ofCode code).check call = .ok ()) ∨
      (code ≠ 0 ∧ (ofCode code).check call = .error (.ofStatus call (ofCode code))) := by
  obtain ⟨hok, hcheck⟩ | ⟨hbad, hcheck⟩ := (ofCode code).check_cases call
  · exact .inl ⟨(ofCode_isOk code).mp hok, hcheck⟩
  · exact .inr ⟨ofCode_failed.mp hbad, hcheck⟩

theorem Status.isOk_iff {s : Status} : s.isOk = true ↔ s = .ok := by simp [isOk]

theorem Status.ofCode_eq_noData_iff {code : Int32} : ofCode code = .noData ↔ code = noData.code := by
  constructor
  · intro h
    rw [← code_ofCode code, h]
  · rintro rfl
    decide

namespace Engine

variable {α : Type} (e : Engine)

theorem through_cases (s : Native.Symbol) (args : List Native.Arg) (refuse : Status → α)
    (act : Simulator → α × Simulator) :
    (∃ calls, e.through s args refuse act =
        ((act e.sim).1, { e with sim := (act e.sim).2 }, calls)) ∨
      ∃ status calls, Status.isOk status = false ∧
        e.through s args refuse act = (refuse status, e, calls) := by
  unfold through
  split
  · exact .inl ⟨_, rfl⟩
  · rename_i c _
    simp only
    split
    · exact .inl ⟨_, rfl⟩
    · rename_i hc
      exact .inr ⟨.ofCode (c.codeOf s), _, Status.ofCode_failed.mpr hc, rfl⟩

def SamePolicies (e e' : Engine) : Prop :=
  e'.sim.policies = e.sim.policies ∧ e'.sim.registrations = e.sim.registrations

theorem SamePolicies.refl : SamePolicies e e := ⟨rfl, rfl⟩

theorem through_samePolicies (s : Native.Symbol) (args : List Native.Arg) (refuse : Status → α)
    (act : Simulator → α × Simulator)
    (h : ∀ sim, (act sim).2.policies = sim.policies ∧ (act sim).2.registrations = sim.registrations) :
    SamePolicies e (e.through s args refuse act).2.1 := by
  obtain ⟨calls, hc⟩ | ⟨status, calls, -, hc⟩ := e.through_cases s args refuse act
  · rw [hc]
    exact h e.sim
  · rw [hc]
    exact .refl e

theorem history_samePolicies (q : History.Query) : SamePolicies e (e.history q).2.1 :=
  through_samePolicies e _ _ _ _ fun _ => ⟨rfl, rfl⟩

theorem snapshot_samePolicies (entities : List (UInt32 × UInt32)) (fields : List UInt16)
    (flags : UInt32) (slots : Array EntityRecord) :
    SamePolicies e (e.snapshot entities fields flags slots).2.1 := by
  unfold snapshot
  split
  · exact .refl e
  · apply through_samePolicies e
    intro sim
    unfold Simulator.snapshot
    split
    · exact ⟨rfl, rfl⟩
    · simp only
      split <;> exact ⟨rfl, rfl⟩

theorem through_owned (s : Native.Symbol) (args : List Native.Arg) (refuse : Status → α)
    (act : Simulator → α × Simulator) : (e.through s args refuse act).2.1.owned = e.owned := by
  obtain ⟨calls, hc⟩ | ⟨status, calls, -, hc⟩ := e.through_cases s args refuse act <;> rw [hc]

theorem snapshot_owned (entities : List (UInt32 × UInt32)) (fields : List UInt16) (flags : UInt32)
    (slots : Array EntityRecord) : (e.snapshot entities fields flags slots).2.1.owned = e.owned := by
  unfold snapshot
  split
  · rfl
  · exact through_owned e _ _ _ _

theorem unregister_owned (group : GroupId) (mask : UInt32) :
    (e.unregister group mask).2.1.owned = e.owned := by
  unfold unregister
  split
  · exact through_owned e _ _ _ _
  · rfl
  · rfl

theorem giveBack_owned : e.giveBack.1.owned = e.owned := by
  unfold giveBack
  split
  · split <;> rfl
  · rfl

theorem giveBack_sim : e.giveBack.1.sim = e.sim := by
  unfold giveBack
  split
  · split <;> rfl
  · rfl

theorem setPolicy_cases (group : GroupId) (p : Policy) :
    ((e.setPolicy group p).1.isOk = false ∧ (e.setPolicy group p).2.1 = e) ∨
      ((e.setPolicy group p).1.isOk = true ∧
        (e.setPolicy group p).2.1.sim.policies = assign e.sim.policies group (some p) ∧
        (e.setPolicy group p).2.1.sim.registrations = e.sim.registrations) := by
  obtain ⟨calls, hc⟩ | ⟨status, calls, hs, hc⟩ := e.through_cases .policySet
    [.int group.toNat, .int p.condition.toNat, .int 0] id (·.setPolicy group p)
  · unfold setPolicy
    rw [hc]
    unfold Simulator.setPolicy
    split
    · exact .inr ⟨rfl, rfl, rfl⟩
    · rename_i hok
      exact .inl ⟨by simpa using hok, rfl⟩
  · unfold setPolicy
    rw [hc]
    exact .inl ⟨hs, rfl⟩

theorem register_cases (group : GroupId) (mask : UInt32) (user : Nat) :
    ((e.register group mask user).1.isOk = false ∧ (e.register group mask user).2.1 = e) ∨
      ((e.register group mask user).1.isOk = true ∧
        (e.register group mask user).2.1.sim.policies = e.sim.policies ∧
        (e.register group mask user).2.1.sim.registrations =
          e.sim.registrations ++ [{ group := group, mask := mask, user := user }]) := by
  obtain ⟨calls, hc⟩ | ⟨status, calls, hs, hc⟩ := e.through_cases .policyRegister
    [.int group.toNat, .int mask.toNat, .int user] id
    (·.register { group := group, mask := mask, user := user })
  · unfold register
    rw [hc]
    unfold Simulator.register
    split
    · exact .inr ⟨rfl, rfl, rfl⟩
    · rename_i hok
      exact .inl ⟨by simpa using hok, rfl⟩
  · unfold register
    rw [hc]
    exact .inl ⟨hs, rfl⟩

def clears (group : GroupId) (mask : UInt32) : Bool :=
  e.teardown == .passed && (e.unregister group mask).1 == some .ok

theorem unregister_cases (group : GroupId) (mask : UInt32) :
    (e.clears group mask = false ∧ SamePolicies e (e.unregister group mask).2.1) ∨
      (e.clears group mask = true ∧
        (e.unregister group mask).2.1.sim.policies = e.sim.policies ∧
        (e.unregister group mask).2.1.sim.registrations =
          (e.sim.registrations.map (·.cleared group mask)).filter (·.mask != 0)) := by
  unfold clears unregister
  cases e.teardown with
  | passed =>
    simp only
    obtain ⟨calls, hc⟩ | ⟨status, calls, hs, hc⟩ := e.through_cases .policyUnregister
      [.int group.toNat, .int mask.toNat] id (·.unregister group mask)
    · rw [hc]
      exact .inr ⟨rfl, rfl, rfl⟩
    · have hne : status ≠ .ok := by
        rintro rfl
        cases hs
      rw [hc]
      exact .inl ⟨by simpa using hne, .refl e⟩
  | refused | aborted => exact .inl ⟨rfl, .refl e⟩

end Engine

end GpuTelemetry
