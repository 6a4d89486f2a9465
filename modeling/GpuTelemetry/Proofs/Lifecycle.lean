import GpuTelemetry.Proofs.Evolution
import GpuTelemetry.Proofs.Tables

namespace GpuTelemetry

namespace Subscription.Step

variable {m : Monitor} {s s' : Subscription} {a : Action} {acc out : List Violation}

theorem id_eq (h : s.Step m a acc out s') : s'.id = s.id := by
  cases h <;> rfl

theorem key_eq (h : s.Step m a acc out s') : s'.key = s.key := by
  cases h <;> rfl

theorem conditions_eq (h : s.Step m a acc out s') : s'.conditions = s.conditions := by
  cases h <;> rfl

theorem thresholds_eq (h : s.Step m a acc out s') : s'.thresholds = s.thresholds := by
  cases h <;> rfl

theorem fired (h : s.Step m a acc out s') (hf : s.scope.fired = true) : s'.scope.fired = true := by
  cases h <;> first | rfl | exact hf

end Subscription.Step

namespace Monitor

variable {m m' : Monitor} {a : Action}

theorem Evolves.origin (h : Evolves m a m') {s' : Subscription} (hs : s' ∈ m'.subscriptions) :
    (∃ s ∈ m.subscriptions, ∃ acc out, s.Step m a acc out s' ∧
      m'.accepted s.id = m.accepted s.id ++ acc ∧ m'.yielded s.id = m.yielded s.id ++ out) ∨
      m.Adds a s' := by
  obtain ⟨next, added, list, step, -, hadded, -⟩ := h
  rw [list, List.mem_append] at hs
  obtain hs | hs := hs
  · obtain ⟨s, hm, rfl⟩ := List.mem_map.mp hs
    obtain ⟨acc, out, hstep, hacc, hout⟩ := step s hm
    exact .inl ⟨s, hm, acc, out, hstep, hacc, hout⟩
  · obtain rfl | ⟨t, rfl, ht, -⟩ := hadded
    · cases hs
    · obtain rfl := List.mem_singleton.mp hs
      exact .inr ht

theorem Evolves.successor (h : Evolves m a m') {s : Subscription} (hs : s ∈ m.subscriptions) :
    ∃ s' ∈ m'.subscriptions, ∃ acc out, s.Step m a acc out s' ∧
      m'.accepted s.id = m.accepted s.id ++ acc ∧ m'.yielded s.id = m.yielded s.id ++ out := by
  obtain ⟨next, added, list, step, -, -, -⟩ := h
  refine ⟨next s, ?_, step s hs⟩
  rw [list]
  exact List.mem_append_left _ (List.mem_map_of_mem hs)

theorem Evolves.yielded_eq (h : Evolves m a m') {id : Nat} (unread : a ≠ .receive id) :
    m'.yielded id = m.yielded id := by
  by_cases known : ∃ s ∈ m.subscriptions, s.id = id
  · obtain ⟨s, hs, rfl⟩ := known
    obtain ⟨s', -, acc, out, step, -, hout⟩ := h.successor hs
    cases step with
    | yielded => exact absurd rfl unread
    | _ => simpa using hout
  · obtain ⟨-, -, -, -, hsilent, -, -⟩ := h
    exact (hsilent id fun s hs hid => known ⟨s, hs, hid⟩).2

theorem Numbered.evolves (n : m.Numbered) (h : Evolves m a m') : m'.Numbered := by
  obtain ⟨next, added, list, step, -, hadded, hle⟩ := h
  have hids : (m.subscriptions.map next).map (·.id) = m.subscriptions.map (·.id) := by
    rw [List.map_map]
    apply List.map_congr_left
    intro s hs
    obtain ⟨acc, out, hstep, -, -⟩ := step s hs
    exact hstep.id_eq
  have hold : ∀ id ∈ m.subscriptions.map (·.id), id ≤ m.lastId := by
    intro id hid
    obtain ⟨s, hs, rfl⟩ := List.mem_map.mp hid
    exact n.le s hs
  constructor
  · rw [list, List.map_append, hids]
    obtain rfl | ⟨t, rfl, ⟨i, r, -, -, -, rfl⟩, -⟩ := hadded
    · simpa using n.nodup
    · refine List.nodup_append.mpr ⟨n.nodup, by simp, ?_⟩
      rintro id hid _ hnew rfl
      have hnew : id = m.lastId + 1 := by simpa [Request.subscription] using hnew
      have := hold id hid
      omega
  · intro s hs
    rw [list, List.mem_append] at hs
    obtain hs | hs := hs
    · have hid : s.id ∈ m.subscriptions.map (·.id) := hids ▸ List.mem_map_of_mem hs
      exact Nat.le_trans (hold _ hid) hle
    · obtain rfl | ⟨t, rfl, -, ht⟩ := hadded
      · cases hs
      · rwa [List.mem_singleton.mp hs]

theorem Reachable.numbered (h : Reachable m) : m.Numbered := by
  apply h.induction ⟨List.nodup_nil, by simp⟩
  intro m a m' _ n h
  exact n.evolves (act?_evolves n h)

theorem Reachable.evolves (hr : Reachable m) (h : m.act? a = some m') : Evolves m a m' :=
  act?_evolves hr.numbered h

theorem Reachable.silent (h : Reachable m) :
    ∀ id, m.lastId < id → m.accepted id = [] ∧ m.yielded id = [] := by
  refine h.induction (P := fun m => ∀ id, m.lastId < id → m.accepted id = [] ∧ m.yielded id = [])
    (fun _ _ => ⟨rfl, rfl⟩) ?_
  intro m a m' hr ih h id hid
  have n := hr.numbered
  obtain ⟨-, -, -, -, hsilent, -, hle⟩ := act?_evolves n h
  have hlt : m.lastId < id := Nat.lt_of_le_of_lt hle hid
  obtain ⟨hacc, hout⟩ := hsilent id fun s hs he => by
    have := n.le s hs
    omega
  exact ⟨hacc.trans (ih id hlt).1, hout.trans (ih id hlt).2⟩

inductive Listing (m : Monitor) : Action → Monitor → Prop
  | kept {a : Action} {m' : Monitor} (registry : m'.registry = m.registry)
      (stays : ∀ id, a ≠ .move (.detach id)) (none : ∀ s ∈ m'.subscriptions, ¬ m.Adds a s) :
      Listing m a m'
  | joined {i : Nat} {m' : Monitor} (registry : m'.registry = (m.lastId + 1) :: m.registry)
      (last : m'.lastId = m.lastId + 1) : Listing m (.move (.enter i)) m'
  | detached {id : Nat} {m' : Monitor} (registry : m'.registry = m.registry.erase id)
      (gone : ∀ s ∈ m'.subscriptions, s.id = id → s.phase.isAttached = false)
      (last : m'.lastId = m.lastId) : Listing m (.move (.detach id)) m'

theorem not_adds_of_quiet (ha : a.changesTables = false) (s : Subscription) : ¬ m.Adds a s := by
  rintro ⟨i, r, rfl, -⟩
  cases ha

theorem enter?_listing {i : Nat} (n : m.Numbered) (h : m.enter? i = some m') :
    Listing m (.move (.enter i)) m' := by
  have hnone (list : m'.subscriptions = m.subscriptions) :
      ∀ s ∈ m'.subscriptions, ¬ m.Adds (.move (.enter i)) s := by
    rintro s hs ⟨j, r, -, -, -, rfl⟩
    have hle := n.le _ (list ▸ hs)
    simp only [Request.subscription] at hle
    omega
  obtain ⟨r, hr, hl, hm⟩ := enter?_cases h
  have hend := enrol_cases { m with requests := m.requests.eraseIdx i } r
  rw [← hm] at hend
  cases hend with
  | policyRefused refused => exact .kept rfl (by simp) (hnone rfl)
  | registrationRefused o ho accepted refused =>
    subst ho
    exact .kept rfl (by simp) (hnone rfl)
  | joined o ho accepted registered =>
    subst ho
    exact .joined rfl rfl

theorem detach?_listing {id : Nat} (h : m.detach? id = some m') :
    Listing m (.move (.detach id)) m' := by
  obtain ⟨s, -, -, -, rfl⟩ := detach?_cases h
  refine .detached rfl (fun t ht hid => ?_) rfl
  obtain ⟨u, -, rfl⟩ := List.mem_map.mp ht
  by_cases hu : u.id = id
  · rw [if_pos hu]
    rfl
  · rw [if_neg hu] at hid
    exact absurd hid hu

theorem act?_listing (n : m.Numbered) (h : m.act? a = some m') : Listing m a m' := by
  by_cases ha : a.changesTables = false
  · refine .kept (act?_sameTables h ha).registry ?_ fun s _ => not_adds_of_quiet ha s
    rintro id rfl
    cases ha
  · cases a with
    | move mv =>
      cases mv with
      | enter => exact enter?_listing n h
      | detach =>
        exact detach?_listing h
      | release =>
        obtain ⟨s, -, -, -, -, mask, -, ⟨-, rfl⟩ | ⟨-, rfl⟩⟩ := release?_cases h
        · exact .kept rfl (by simp) (by rintro _ _ ⟨_, _, h, _⟩; cases h)
        · exact .kept rfl (by simp) (by rintro _ _ ⟨_, _, h, _⟩; cases h)
      | unregister =>
        obtain ⟨s, -, -, mask, -, -, rfl⟩ := unregister?_cases h
        exact .kept rfl (by simp) (by rintro _ _ ⟨_, _, h, _⟩; cases h)
      | _ => exact absurd rfl ha
    | _ => exact absurd rfl ha

end Monitor

theorem Subscription.Step.isAttached_eq {m : Monitor} {s s' : Subscription} {a : Action}
    {acc out : List Violation} (h : s.Step m a acc out s') (ha : a ≠ .move (.detach s.id)) :
    s'.phase.isAttached = s.phase.isAttached := by
  cases h with
  | detached => exact absurd rfl ha
  | started phase | left phase | released phase | called _ phase | returned _ phase | closed phase
  | finished phase => simp [phase, Phase.isAttached]
  | _ => rfl

namespace Monitor

structure Listed (m : Monitor) : Prop where
  nodup : m.registry.Nodup
  le : ∀ id ∈ m.registry, id ≤ m.lastId
  attached : ∀ s ∈ m.subscriptions, s.id ∈ m.registry ↔ s.phase.isAttached = true

theorem Listed.act {m m' : Monitor} {a : Action} (n : m.Numbered) (l : m.Listed)
    (h : m.act? a = some m') : m'.Listed := by
  have hev := act?_evolves n h
  have hle : m.lastId ≤ m'.lastId := hev.choose_spec.choose_spec.2.2.2.2
  cases act?_listing n h with
  | kept registry stays none =>
    refine ⟨registry ▸ l.nodup, fun id hid => Nat.le_trans (l.le id (registry ▸ hid)) hle, ?_⟩
    intro s' hs'
    obtain ⟨s, hs, acc, out, step, -, -⟩ | hadds := hev.origin hs'
    · rw [registry, step.id_eq, step.isAttached_eq (stays s.id)]
      exact l.attached s hs
    · exact absurd hadds (none s' hs')
  | joined registry last =>
    refine ⟨?_, ?_, ?_⟩
    · rw [registry, List.nodup_cons]
      refine ⟨fun hid => ?_, l.nodup⟩
      have := l.le _ hid
      omega
    · intro id hid
      rw [registry, List.mem_cons] at hid
      obtain rfl | hid := hid
      · omega
      · have := l.le id hid
        omega
    · intro s' hs'
      rw [registry, List.mem_cons]
      obtain ⟨s, hs, acc, out, step, -, -⟩ | ⟨j, r, -, -, -, rfl⟩ := hev.origin hs'
      · have hne : s.id ≠ m.lastId + 1 := by
          have := n.le s hs
          omega
        rw [step.id_eq, step.isAttached_eq (by simp), ← l.attached s hs]
        simp [hne]
      · simp [Request.subscription, Phase.isAttached]
  | detached registry gone last =>
    rename_i id
    refine ⟨registry ▸ l.nodup.erase id, ?_, ?_⟩
    · intro k hk
      rw [registry] at hk
      rw [last]
      exact l.le k (List.mem_of_mem_erase hk)
    · intro s' hs'
      rw [registry]
      by_cases hid : s'.id = id
      · rw [gone s' hs' hid, hid]
        simpa using l.nodup.not_mem_erase
      · obtain ⟨s, hs, acc, out, step, -, -⟩ | ⟨j, r, hj, -⟩ := hev.origin hs'
        · rw [step.id_eq] at hid ⊢
          rw [List.mem_erase_of_ne hid, step.isAttached_eq (by simpa using Ne.symm hid)]
          exact l.attached s hs
        · cases hj

theorem Reachable.listed {m : Monitor} (h : Reachable m) : m.Listed := by
  apply h.induction ⟨List.nodup_nil, by simp, by simp⟩
  intro m a m' hr l h
  exact l.act hr.numbered h

end Monitor

structure Subscription.Tidy (s : Subscription) : Prop where
  fired : s.phase.isLive = false → s.scope.fired = true
  reader : s.reader = false → s.scope.fired = true
  hand : s.phase ≠ .streaming → s.hand = none
  slots : s.phase.isAttached = false → ∀ c, s.slots c = []

theorem Subscription.Step.tidy {m : Monitor} {s s' : Subscription} {a : Action}
    {acc out : List Violation} (h : s.Step m a acc out s')
    (listed : s.id ∈ m.registry ↔ s.phase.isAttached = true) (t : s.Tidy) : s'.Tidy := by
  cases h with
  | same | yielded | discarded => exact ⟨t.fired, t.reader, t.hand, t.slots⟩
  | cancelled => exact ⟨fun _ => rfl, fun _ => rfl, t.hand, t.slots⟩
  | dropped => exact ⟨fun _ => rfl, fun _ => rfl, t.hand, t.slots⟩
  | accepted i v watched attached room =>
    exact ⟨t.fired, t.reader, t.hand, fun hp => by simp [listed.mp attached] at hp⟩
  | started phase =>
    exact ⟨nofun, t.reader, fun hp => absurd rfl hp, nofun⟩
  | taken c v rest phase free ready =>
    exact ⟨t.fired, t.reader, fun hp => absurd phase hp,
      fun hp => by simp [phase, Phase.isAttached] at hp⟩
  | sent v phase held room => exact ⟨t.fired, t.reader, fun _ => rfl, t.slots⟩
  | left phase stops =>
    have hfired : s.scope.fired = true := by
      have hreg : s.id ∈ m.registry := listed.mpr (by simp [phase, Phase.isAttached])
      simp only [Monitor.stops, Bool.or_eq_true, Bool.and_eq_true] at stops
      obtain (hf | ⟨-, hgone⟩) | ⟨-, hreader⟩ := stops
      · exact hf
      · simp [hreg] at hgone
      · exact t.reader (by simpa using hreader)
    exact ⟨fun _ => hfired, fun _ => hfired, fun _ => rfl, nofun⟩
  | detached phase =>
    have hfired := t.fired (by simp [phase, Phase.isLive])
    exact ⟨fun _ => hfired, fun _ => hfired, fun _ => t.hand (by simp [phase]), fun _ _ => rfl⟩
  | released phase | called _ phase | returned _ phase | closed phase | finished phase =>
    have hfired := t.fired (by simp [phase, Phase.isLive])
    exact ⟨fun _ => hfired, fun _ => hfired, fun _ => t.hand (by simp [phase]),
      fun _ => t.slots (by simp [phase, Phase.isAttached])⟩

theorem Monitor.Reachable.tidy {m : Monitor} (h : Reachable m) : ∀ s ∈ m.subscriptions, s.Tidy := by
  apply h.induction (P := fun m => ∀ s ∈ m.subscriptions, s.Tidy) (by simp)
  intro m a m' hr ih h s' hs'
  obtain ⟨s, hs, acc, out, step, -, -⟩ | ⟨i, r, -, -, -, rfl⟩ := (hr.evolves h).origin hs'
  · exact step.tidy (hr.listed.attached s hs) (ih s hs)
  · exact ⟨nofun, nofun, fun _ => rfl, nofun⟩

end GpuTelemetry
