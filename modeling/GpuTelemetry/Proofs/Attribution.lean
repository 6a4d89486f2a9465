import GpuTelemetry.Proofs.StaleRegistrations

namespace GpuTelemetry

open scoped List

namespace Registration

@[simp] theorem cleared_user (g : Registration) (group : GroupId) (mask : UInt32) :
    (g.cleared group mask).user = g.user := by
  unfold cleared
  split <;> rfl

@[simp] theorem cleared_sink (g : Registration) (group : GroupId) (mask : UInt32) :
    (g.cleared group mask).sink = g.sink := by
  unfold cleared
  split <;> rfl

end Registration

namespace Monitor

variable {m m' : Monitor} {a : Action} {e : Nat} {c : Condition}

def Owns (m : Monitor) (e : Nat) (g : Registration) : Prop :=
  g.sink = .subscriptions ∧ ∃ s ∈ m.subscriptions, s.id = g.user ∧ s.key = ⟨e, g.group⟩ ∧
    ∀ c, c.isIn g.mask = true → c ∈ s.conditions

structure Attributed (m : Monitor) : Prop where
  users : ∀ e < m.engineCount, ((m.registrations e).map (·.user)).Nodup
  owned : ∀ e < m.engineCount, ∀ g ∈ m.registrations e, m.Owns e g

theorem Owns.act {g : Registration} (h : m.Owns e g) (hr : Reachable m) (ha : m.act? a = some m') :
    m'.Owns e g := by
  obtain ⟨sink, s, hs, hid, hkey, hmask⟩ := h
  obtain ⟨s', hs', acc, out, step, -, -⟩ := (hr.evolves ha).successor hs
  refine ⟨sink, s', hs', step.id_eq.trans hid, step.key_eq.trans hkey, fun c hc => ?_⟩
  rw [step.conditions_eq]
  exact hmask c hc

theorem Owns.cleared {g : Registration} (h : m.Owns e g) (group : GroupId) (mask : UInt32) :
    m.Owns e (g.cleared group mask) := by
  obtain ⟨sink, s, hs, hid, hkey, hmask⟩ := h
  refine ⟨?_, s, hs, ?_, ?_, fun c hc => hmask c ((g.isIn_cleared group mask c).mp hc).1⟩
  · rw [g.cleared_sink, sink]
  · rw [g.cleared_user, hid]
  · rw [g.cleared_group, hkey]

theorem owns_joined {r : Request} {scope : Scope} {id : Nat}
    (list : m'.subscriptions = m.subscriptions ++ [r.subscription id scope]) :
    m'.Owns r.key.engine (r.registration id) := by
  refine ⟨rfl, r.subscription id scope, ?_, rfl, rfl, fun c hc => Condition.isIn_maskOf.mp hc⟩
  rw [list]
  exact List.mem_append_right _ (List.mem_singleton_self _)

theorem Owns.user_le {g : Registration} (h : m.Owns e g) (n : m.Numbered) : g.user ≤ m.lastId := by
  obtain ⟨-, s, hs, hid, -⟩ := h
  rw [← hid]
  exact n.le s hs

theorem remaining_users (registrations : List Registration) (group : GroupId) (mask : UInt32) :
    (remaining registrations group mask).map (·.user) <+ registrations.map (·.user) := by
  have husers : (registrations.map (·.cleared group mask)).map (·.user) =
      registrations.map (·.user) := by
    simp [List.map_map, Function.comp_def]
  rw [← husers]
  exact List.filter_sublist.map _

inductive Registers (m : Monitor) (e : Nat) (m' : Monitor) : Prop
  | same (registrations : m'.registrations e = m.registrations e)
  | joined (r : Request) (engine : e = r.key.engine)
      (registrations : m'.registrations e = m.registrations e ++ [r.registration (m.lastId + 1)])
      (list : m'.subscriptions =
        m.subscriptions ++ [r.subscription (m.lastId + 1) (m.scopeOf r.token)])
  | cleared (group : GroupId) (mask : UInt32)
      (registrations : m'.registrations e = remaining (m.registrations e) group mask)

theorem Effect.registers (h : Effect m a m') (known : e < m.engineCount) : Registers m e m' := by
  cases h with
  | quiet groups engines holders => exact .same (engines.registrations known)
  | replaced r waits free groups engines list => exact .same (engines.registrations e known)
  | joined r waits free groups engines list =>
    have hlist := engines.registrations e known
    by_cases he : e = r.key.engine
    · subst he
      exact .joined r rfl (hlist.trans (assign_self ..)) list
    · exact .same (hlist.trans (assign_of_ne _ _ he))
  | released s waits free p outcome groups engines list => exact .same (list.registrations known)
  | cleared s known' mask calls groups engines holders =>
    have hlist := engines.registrations e known
    by_cases he : e = s.key.engine
    · subst he
      exact .cleared s.key.group mask (hlist.trans (assign_self ..))
    · exact .same (hlist.trans (assign_of_ne _ _ he))

theorem Attributed.act (h : m.Attributed) (hr : Reachable m) (ha : m.act? a = some m') :
    m'.Attributed := by
  constructor
  · intro e he
    obtain known | hnone := known_or_unused ha he
    · cases (hr.effect ha).registers known with
      | same registrations =>
        rw [registrations]
        exact h.users e known
      | joined r engine registrations list =>
        rw [registrations, List.map_append]
        refine List.nodup_append.mpr ⟨h.users e known, List.nodup_singleton _, ?_⟩
        rintro _ hold _ hnew rfl
        obtain ⟨g, hg, huser⟩ := List.mem_map.mp hold
        -- an old registration has an old number
        have hlast : g.user = m.lastId + 1 := huser.trans (List.mem_singleton.mp hnew)
        have := (h.owned e known g hg).user_le hr.numbered
        omega
      | cleared group mask registrations =>
        rw [registrations]
        exact (h.users e known).sublist (remaining_users _ group mask)
    · simp [hnone]
  · intro e he g hg
    obtain known | hnone := known_or_unused ha he
    · cases (hr.effect ha).registers known with
      | same registrations =>
        rw [registrations] at hg
        exact (h.owned e known g hg).act hr ha
      | joined r engine registrations list =>
        rw [registrations] at hg
        obtain hg | hg := List.mem_append.mp hg
        · exact (h.owned e known g hg).act hr ha
        · rw [List.mem_singleton.mp hg, engine]
          exact owns_joined list
      | cleared group mask registrations =>
        rw [registrations] at hg
        obtain ⟨old, hold, rfl⟩ := List.mem_map.mp (List.mem_filter.mp hg).1
        exact ((h.owned e known old hold).act hr ha).cleared group mask
    · rw [hnone] at hg
      cases hg

theorem Reachable.attributed (h : Reachable m) : m.Attributed := by
  have start : Attributed {} :=
    ⟨fun e he => absurd he (Nat.not_lt_zero e), fun e he => absurd he (Nat.not_lt_zero e)⟩
  apply h.induction start
  intro m a m' hr ih h
  exact ih.act hr h

section targets

theorem mem_targets {sim : Simulator} {t : Registration} : t ∈ sim.targets c.mask ↔
    t ∈ sim.registrations ∧ c.isIn t.mask = true ∧
      ∃ p, sim.policies t.group = some p ∧ c.isIn p.condition = true := by
  simp only [Simulator.targets, Simulator.isTarget, List.mem_filter, Bool.and_eq_true,
    Condition.isIn]
  cases sim.policies t.group <;> simp

theorem targets_users (h : Reachable m) (known : e < m.engineCount) (mask : UInt32) :
    (((m.engines e).sim.targets mask).map (·.user)).Nodup :=
  (h.attributed.users e known).sublist (List.filter_sublist.map _)

theorem registration_mem_targets (h : Reachable m) {s : Subscription} (hs : s ∈ m.subscriptions)
    (holds : s.phase.holds = true) (hc : c ∈ s.conditions) :
    s.registration ∈ (m.engines s.key.engine).sim.targets c.mask := by
  obtain ⟨registered, p, hp, hwatched⟩ := h.served s hs holds
  exact mem_targets.mpr ⟨registered, Condition.isIn_maskOf.mpr hc, p, hp, hwatched c hc⟩

theorem owns_target (h : Reachable m) (known : e < m.engineCount) {mask : UInt32} {t : Registration}
    (ht : t ∈ (m.engines e).sim.targets mask) : m.Owns e t :=
  h.attributed.owned e known t (List.mem_filter.mp ht).1

end targets

end Monitor

end GpuTelemetry
