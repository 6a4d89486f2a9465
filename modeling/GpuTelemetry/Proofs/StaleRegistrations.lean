import GpuTelemetry.Proofs.LiveRegistrations

namespace GpuTelemetry

namespace Registration

@[simp] theorem cleared_group (g : Registration) (group : GroupId) (mask : UInt32) :
    (g.cleared group mask).group = g.group := by
  unfold cleared
  split <;> rfl

theorem isIn_cleared (g : Registration) (group : GroupId) (mask : UInt32) (c : Condition) :
    c.isIn (g.cleared group mask).mask = true ↔
      c.isIn g.mask = true ∧ ¬(g.group = group ∧ c.isIn mask = true) := by
  unfold cleared
  split
  · rename_i hgroup
    simp [Condition.isIn_and_not, hgroup]
  · rename_i hgroup
    simp [hgroup]

def Names (g : Registration) (cs : List Condition) : Prop := cs ≠ [] ∧ g.mask = Condition.maskOf cs

theorem Names.cleared {g : Registration} {cs : List Condition} (h : g.Names cs) {group : GroupId}
    {mask : UInt32} (left : (g.cleared group mask).mask ≠ 0) :
    ∃ rest, (g.cleared group mask).Names rest := by
  by_cases hgroup : g.group = group
  · have hmask : (g.cleared group mask).mask =
        Condition.maskOf (cs.filter fun c => !c.isIn mask) := by
      simp [Registration.cleared, hgroup, h.2, Condition.maskOf_without]
    refine ⟨_, fun hnil => left ?_, hmask⟩
    rw [hmask, hnil]
    rfl
  · have hsame : g.cleared group mask = g := by simp [Registration.cleared, hgroup]
    rw [hsame]
    exact ⟨cs, h⟩

end Registration

/-- Whether a condition is on the engine on this subscription's account: it is held, or the call that
unregisters it has not returned. -/
def Subscription.Keeps (s : Subscription) (c : Condition) : Prop :=
  (s.phase.holds = true ∧ c ∈ s.conditions) ∨ ∃ mask, s.phase = .calling mask ∧ c.isIn mask = true

namespace Subscription.Step

variable {m : Monitor} {s s' : Subscription} {a : Action} {acc out : List Violation}

theorem calls_iff (h : s.Step m a acc out s') (hr : a ≠ .move (.release s.id))
    (hu : a ≠ .move (.unregister s.id)) (mask : UInt32) :
    s'.phase = .calling mask ↔ s.phase = .calling mask := by
  cases h with
  | released | called => exact absurd rfl hr
  | returned => exact absurd rfl hu
  | started phase | left phase | detached phase | closed phase | finished phase => simp [phase]
  | _ => rfl

theorem keeps_iff (h : s.Step m a acc out s') (hr : a ≠ .move (.release s.id))
    (hu : a ≠ .move (.unregister s.id)) (c : Condition) : s'.Keeps c ↔ s.Keeps c := by
  have same := h.sameHold hr
  simp only [Keeps, same.holds, same.conditions, h.calls_iff hr hu]

end Subscription.Step

namespace Monitor

variable {m m' : Monitor} {a : Action} {key : GroupKey} {c : Condition}

def Registered (m : Monitor) (key : GroupKey) (c : Condition) : Prop :=
  ∃ g ∈ m.registrations key.engine, g.group = key.group ∧ c.isIn g.mask = true

def Kept (m : Monitor) (key : GroupKey) (c : Condition) : Prop :=
  ∃ s ∈ m.subscriptions, s.key = key ∧ s.Keeps c

def KeptBeside (m : Monitor) (id : Nat) (key : GroupKey) (c : Condition) : Prop :=
  ∃ s ∈ m.subscriptions, s.id ≠ id ∧ s.key = key ∧ s.Keeps c

section kept

theorem Evolves.kept_iff (h : Evolves m a m') (he : ∀ i, a ≠ .move (.enter i))
    (hr : ∀ id, a ≠ .move (.release id)) (hu : ∀ id, a ≠ .move (.unregister id)) :
    m'.Kept key c ↔ m.Kept key c := by
  constructor
  · rintro ⟨s', hs', hk, hkeeps⟩
    obtain ⟨s, hs, acc, out, step, -, -⟩ | ⟨i, r, ha, -⟩ := h.origin hs'
    · exact ⟨s, hs, step.key_eq ▸ hk, (step.keeps_iff (hr _) (hu _) c).mp hkeeps⟩
    · exact absurd ha (he i)
  · rintro ⟨s, hs, hk, hkeeps⟩
    obtain ⟨s', hs', acc, out, step, -, -⟩ := h.successor hs
    exact ⟨s', hs', step.key_eq.trans hk, (step.keeps_iff (hr _) (hu _) c).mpr hkeeps⟩

theorem kept_iff_beside (n : m.Numbered) {s : Subscription} (hs : s ∈ m.subscriptions) :
    m.Kept key c ↔ (s.key = key ∧ s.Keeps c) ∨ m.KeptBeside s.id key c := by
  constructor
  · rintro ⟨t, ht, hkeeps⟩
    by_cases hid : t.id = s.id
    · obtain rfl := n.eq_of_id ht hs hid
      exact .inl hkeeps
    · exact .inr ⟨t, ht, hid, hkeeps⟩
  · rintro (hkeeps | ⟨t, ht, -, hkeeps⟩)
    · exact ⟨s, hs, hkeeps⟩
    · exact ⟨t, ht, hkeeps⟩

theorem kept_update_iff (n : m.Numbered) {s : Subscription} (hs : s ∈ m.subscriptions) {p : Phase}
    (list : m'.subscriptions = (m.update s.id fun s => { s with phase := p }).subscriptions) :
    m'.Kept key c ↔
      (s.key = key ∧ { s with phase := p }.Keeps c) ∨ m.KeptBeside s.id key c := by
  simp only [Kept, list, n.mem_update_iff hs]
  constructor
  · rintro ⟨t, rfl | ⟨ht, hid⟩, hkeeps⟩
    · exact .inl hkeeps
    · exact .inr ⟨t, ht, hid, hkeeps⟩
  · rintro (hkeeps | ⟨t, ht, hid, hkeeps⟩)
    · exact ⟨_, .inl rfl, hkeeps⟩
    · exact ⟨t, .inr ⟨ht, hid⟩, hkeeps⟩

end kept

def Exclusive (m : Monitor) : Prop :=
  ∀ s ∈ m.subscriptions, ∀ t ∈ m.subscriptions, ∀ mask mask',
    s.phase = .calling mask → t.phase = .calling mask' → s.key = t.key → s.id = t.id

theorem Exclusive.of_sameHolders (h : m.Exclusive) (same : SameHolders m m') : m'.Exclusive := by
  intro s' hs' t' ht' mask mask' hps hpt hk
  obtain ⟨s, hs, holds⟩ := same.origin hs'
  obtain ⟨t, ht, holdt⟩ := same.origin ht'
  rw [holds.key, holdt.key] at hk
  rw [holds.id, holdt.id]
  exact h s hs t ht mask mask' (holds.calls mask hps) (holdt.calls mask' hpt) hk

theorem Exclusive.effect (h : m.Exclusive) (n : m.Numbered) (e : Effect m a m') : m'.Exclusive := by
  cases e with
  | quiet groups engines holders => exact h.of_sameHolders holders
  | replaced r waits free groups engines list => exact h.of_sameHolders (sameHolders_of_eq list)
  | joined r waits free groups engines list =>
    have hold (s : Subscription) (hs : s ∈ m'.subscriptions) {mask : UInt32}
        (hp : s.phase = .calling mask) : s ∈ m.subscriptions := by
      rw [list] at hs
      obtain hs | hs := List.mem_append.mp hs
      · exact hs
      · obtain rfl := List.mem_singleton.mp hs
        cases hp
    intro s hs t ht mask mask' hps hpt hk
    exact h s (hold s hs hps) t (hold t ht hpt) mask mask' hps hpt hk
  | released s known waits free p outcome groups engines list =>
    -- the lock was free, so whoever is calling besides `s` does so for another group
    have hold (t : Subscription) (ht : t ∈ m'.subscriptions) {mask : UInt32}
        (hp : t.phase = .calling mask) :
        (t.id = s.id ∧ t.key = s.key) ∨ (t ∈ m.subscriptions ∧ t.key ≠ s.key) := by
      rw [list, n.mem_update_iff known] at ht
      obtain rfl | ⟨ht, -⟩ := ht
      · exact .inl ⟨rfl, rfl⟩
      · exact .inr ⟨ht, fun hk => not_calling_of_free free ht hk mask hp⟩
    intro t ht u hu mask mask' hpt hpu hk
    obtain ⟨hid, hkey⟩ | ⟨htm, hkey⟩ := hold t ht hpt
    · obtain ⟨hid', -⟩ | ⟨-, hkey'⟩ := hold u hu hpu
      · exact hid.trans hid'.symm
      · exact absurd (hk.symm.trans hkey) hkey'
    · obtain ⟨-, hkey'⟩ | ⟨hum, -⟩ := hold u hu hpu
      · exact absurd (hk.trans hkey') hkey
      · exact h t htm u hum mask mask' hpt hpu hk
  | cleared s known mask calls groups engines holders => exact h.of_sameHolders holders

theorem Reachable.exclusive (h : Reachable m) : m.Exclusive := by
  apply h.induction (P := Exclusive) (fun s hs => by cases hs)
  intro m a m' hr ih h
  exact ih.effect hr.numbered (hr.effect h)

section registered

theorem registered_congr (h : m'.registrations key.engine = m.registrations key.engine) :
    m'.Registered key c ↔ m.Registered key c := by
  simp only [Registered, h]

theorem registered_joined (r : Request) {id : Nat}
    (h : m'.registrations key.engine = assign m.registrations r.key.engine
      (m.registrations r.key.engine ++ [r.registration id]) key.engine) :
    m'.Registered key c ↔ m.Registered key c ∨ (r.key = key ∧ c ∈ r.conditions) := by
  by_cases he : key.engine = r.key.engine
  · have hlist : m'.registrations key.engine =
        m.registrations key.engine ++ [r.registration id] := by
      rw [h, he, assign_self]
    have hkey : r.key = key ↔ r.key.group = key.group :=
      ⟨fun hk => by rw [hk], fun hg => GroupKey.eq_of_parts he.symm hg⟩
    simp [Registered, hlist, or_and_right, exists_or, hkey, Request.registration]
  · have hkey : r.key ≠ key := fun hk => he (by rw [hk])
    rw [registered_congr (h.trans (assign_of_ne _ _ he))]
    simp [hkey]

theorem registered_remaining {gone : GroupKey} {mask : UInt32}
    (h : m'.registrations key.engine = assign m.registrations gone.engine
      (remaining (m.registrations gone.engine) gone.group mask) key.engine) :
    m'.Registered key c ↔ m.Registered key c ∧ ¬(gone = key ∧ c.isIn mask = true) := by
  by_cases he : key.engine = gone.engine
  · have hlist : m'.registrations key.engine =
        remaining (m.registrations key.engine) gone.group mask := by
      rw [h, he, assign_self]
    have hkey : gone = key ↔ key.group = gone.group :=
      ⟨fun hk => by rw [hk], fun hg => GroupKey.eq_of_parts he.symm hg.symm⟩
    rw [Registered, hlist, hkey]
    constructor
    · rintro ⟨g', hg', hgroup, hin⟩
      obtain ⟨g, hg, rfl⟩ := List.mem_map.mp (List.mem_filter.mp hg').1
      rw [Registration.cleared_group] at hgroup
      obtain ⟨hold, hclear⟩ := (g.isIn_cleared _ _ c).mp hin
      exact ⟨⟨g, hg, hgroup, hold⟩, hgroup ▸ hclear⟩
    · rintro ⟨⟨g, hg, hgroup, hold⟩, hclear⟩
      have hin : c.isIn (g.cleared gone.group mask).mask = true :=
        (g.isIn_cleared _ _ c).mpr ⟨hold, hgroup ▸ hclear⟩
      have hne : (g.cleared gone.group mask).mask ≠ 0 := by
        intro hz
        simp [hz] at hin
      refine ⟨g.cleared gone.group mask, ?_, (g.cleared_group _ _).trans hgroup, hin⟩
      exact List.mem_filter.mpr ⟨List.mem_map_of_mem hg, by simpa using hne⟩
  · have hkey : gone ≠ key := fun hk => he (by rw [hk])
    rw [registered_congr (h.trans (assign_of_ne _ _ he))]
    simp [hkey]

end registered

theorem ReleasedTo.keeps_iff {s : Subscription} {p : Phase} (h : ReleasedTo m s p m')
    (c : Condition) : { s with phase := p }.Keeps c ↔ c.isIn (m.due s) = true := by
  obtain ⟨hdue, rfl⟩ | ⟨-, rfl⟩ := h.outcome
  · simp [Subscription.Keeps, Phase.holds, hdue]
  · simp [Subscription.Keeps, Phase.holds]

theorem mem_of_isIn_due (counted : m.Counted) {s : Subscription} (h : c.isIn (m.due s) = true) :
    c ∈ s.conditions := by
  obtain ⟨hpos, hle⟩ := (Watch.isIn_release (counted.noZeros s.key) s.conditions c).mp h
  exact List.count_pos_iff.mp (Nat.lt_of_lt_of_le hpos hle)

theorem due_or_beside (hr : Reachable m) (hr' : Reachable m') {s : Subscription} {p : Phase}
    (h : ReleasedTo m s p m') (hc : c ∈ s.conditions) :
    c.isIn (m.due s) = true ∨ m.KeptBeside s.id s.key c := by
  have noZeros := hr.counted.noZeros s.key
  have hone : s.conditions.count c = 1 :=
    List.count_eq_one_of_mem (hr.wellFormed s h.known).nodup hc
  have hpos : 0 < (m.groups s.key).count c := by
    rw [hr.counted.count]
    exact holders_pos.mpr ⟨s, h.known, rfl, by simp [h.waits, Phase.holds], hc⟩
  by_cases hlast : (m.groups s.key).count c = 1
  · exact .inl ((Watch.isIn_release noZeros s.conditions c).mpr ⟨hpos, by omega⟩)
  · -- one count is left after the release, so its holder is found there, and is not `s`
    have hafter : 0 < (m'.groups s.key).count c := by
      have hgroup : m'.groups s.key = ((m.groups s.key).release s.conditions).1 := by
        rw [h.groups]
        exact assign_self ..
      rw [hgroup, Watch.count_release noZeros]
      omega
    rw [hr'.counted.count, holders_pos] at hafter
    obtain ⟨t, ht, hk, holds, hmem⟩ := hafter
    rw [h.list, hr.numbered.mem_update_iff h.known] at ht
    obtain rfl | ⟨ht, hid⟩ := ht
    · simp [not_holds_of_outcome h.outcome] at holds
    · exact .inr ⟨t, ht, hid, hk, .inl ⟨holds, hmem⟩⟩

theorem not_keptBeside_of_calling (hr : Reachable m) {s : Subscription} (hs : s ∈ m.subscriptions)
    {mask : UInt32} (calls : s.phase = .calling mask) (hin : c.isIn mask = true) :
    ¬ m.KeptBeside s.id s.key c := by
  rintro ⟨t, ht, hid, hk, ⟨holds, hmem⟩ | ⟨mask', calls', -⟩⟩
  · have hpos : 0 < (m.groups s.key).count c := by
      rw [hr.counted.count]
      exact holders_pos.mpr ⟨t, ht, hk, holds, hmem⟩
    have hzero := hr.counted.called s hs mask calls c hin
    omega
  · exact hid (hr.exclusive t ht s hs mask' mask calls' calls hk)

theorem ReleasedTo.kept_iff {s : Subscription} {p : Phase} (h : ReleasedTo m s p m')
    (hr : Reachable m) (hr' : Reachable m') : m'.Kept key c ↔ m.Kept key c := by
  rw [kept_update_iff hr.numbered h.known h.list, kept_iff_beside hr.numbered h.known]
  have hbefore : s.Keeps c ↔ c ∈ s.conditions := by simp [Subscription.Keeps, h.waits, Phase.holds]
  have hafter := h.keeps_iff c
  constructor
  · rintro (⟨hk, hkeeps⟩ | hbeside)
    · have hmem : c ∈ s.conditions := mem_of_isIn_due hr.counted (hafter.mp hkeeps)
      exact .inl ⟨hk, hbefore.mpr hmem⟩
    · exact .inr hbeside
  · rintro (⟨rfl, hkeeps⟩ | hbeside)
    · obtain hdue | hbeside := due_or_beside hr hr' h (hbefore.mp hkeeps)
      · exact .inl ⟨rfl, hafter.mpr hdue⟩
      · exact .inr hbeside
    · exact .inr hbeside

theorem ReturnedTo.kept_iff {s : Subscription} {mask : UInt32} (h : ReturnedTo m s mask m')
    (hr : Reachable m) :
    m'.Kept key c ↔ m.Kept key c ∧ ¬(s.key = key ∧ c.isIn mask = true) := by
  have hbefore : s.Keeps c ↔ c.isIn mask = true := by
    simp [Subscription.Keeps, h.calls, Phase.holds]
  have hafter : ¬ { s with phase := .released }.Keeps c := by
    simp [Subscription.Keeps, Phase.holds]
  rw [kept_update_iff hr.numbered h.known h.list, kept_iff_beside hr.numbered h.known]
  constructor
  · rintro (⟨-, hkeeps⟩ | hbeside)
    · exact absurd hkeeps hafter
    · refine ⟨.inr hbeside, ?_⟩
      rintro ⟨rfl, hin⟩
      exact not_keptBeside_of_calling hr h.known h.calls hin hbeside
  · rintro ⟨⟨hk, hkeeps⟩ | hbeside, hclear⟩
    · exact absurd ⟨hk, hbefore.mp hkeeps⟩ hclear
    · exact .inr hbeside

theorem Effect.sameEngines (e : Effect m a m') (enters : ∀ i, a ≠ .move (.enter i))
    (unregisters : ∀ id, a ≠ .move (.unregister id)) : SameEngines m m' := by
  cases e with
  | quiet groups engines holders => exact engines
  | replaced | joined => exact absurd rfl (enters _)
  | released s known waits free p outcome groups engines list => exact engines
  | cleared => exact absurd rfl (unregisters _)

theorem known_or_unused {e : Nat} (h : m.act? a = some m') (he : e < m'.engineCount) :
    e < m.engineCount ∨ m'.registrations e = [] := by
  obtain hcount | ⟨connection, hcount, hopened⟩ := act?_opens h
  · exact .inl (hcount ▸ he)
  · rw [hcount] at he
    obtain hlt | rfl := Nat.lt_succ_iff_lt_or_eq.mp he
    · exact .inl hlt
    · exact .inr (by simp [Monitor.registrations, hopened, addEngine])

structure Swept (m : Monitor) : Prop where
  names : ∀ e < m.engineCount, ∀ g ∈ m.registrations e, ∃ cs, g.Names cs
  registered_iff : ∀ key : GroupKey, key.engine < m.engineCount →
    ∀ c, m.Registered key c ↔ m.Kept key c

namespace Swept

theorem of_same (sw : m.Swept) (count : m'.engineCount = m.engineCount)
    (registrations : ∀ e < m.engineCount, m'.registrations e = m.registrations e)
    (kept : ∀ key c, m'.Kept key c ↔ m.Kept key c) : m'.Swept := by
  constructor
  · intro e he g hg
    rw [count] at he
    rw [registrations e he] at hg
    exact sw.names e he g hg
  · intro key hk c
    rw [count] at hk
    rw [registered_congr (registrations _ hk), sw.registered_iff key hk, kept]

theorem quiet (sw : m.Swept) (hr : Reachable m) (h : m.act? a = some m')
    (enters : ∀ i, a ≠ .move (.enter i)) (releases : ∀ id, a ≠ .move (.release id))
    (unregisters : ∀ id, a ≠ .move (.unregister id)) : m'.Swept := by
  have kept (key : GroupKey) (c : Condition) : m'.Kept key c ↔ m.Kept key c :=
    (hr.evolves h).kept_iff enters releases unregisters
  have engines := (hr.effect h).sameEngines enters unregisters
  constructor
  · intro e he g hg
    obtain known | none := known_or_unused h he
    · rw [engines.registrations known] at hg
      exact sw.names e known g hg
    · rw [none] at hg
      cases hg
  · intro key hk c
    rw [kept]
    by_cases known : key.engine < m.engineCount
    · rw [registered_congr (engines.registrations known), sw.registered_iff key known]
    · have none := (known_or_unused h hk).resolve_left known
      constructor
      · rintro ⟨g, hg, -⟩
        rw [none] at hg
        cases hg
      · rintro ⟨s, hs, rfl, -⟩
        exact absurd (hr.wellFormed s hs).engine known

theorem entered (sw : m.Swept) {r : Request} (nonempty : r.conditions ≠ [])
    (count : m'.engineCount = m.engineCount) (h : Entered m r m') : m'.Swept := by
  have same (list : m'.subscriptions = m.subscriptions) (key : GroupKey) (c : Condition) :
      m'.Kept key c ↔ m.Kept key c := by
    simp only [Kept, list]
  cases h with
  | policyRefused f refused groups engines list =>
    exact sw.of_same count (fun e he => engines.registrations he) (same list)
  | registrationRefused f accepted groups engines list =>
    exact sw.of_same count engines.registrations (same list)
  | joined groups engines list =>
    constructor
    · intro e he g hg
      rw [count] at he
      rw [engines.registrations e he] at hg
      by_cases hengine : e = r.key.engine
      · subst hengine
        rw [assign_self] at hg
        obtain hg | hg := List.mem_append.mp hg
        · exact sw.names _ he g hg
        · obtain rfl := List.mem_singleton.mp hg
          exact ⟨r.conditions, nonempty, rfl⟩
      · rw [assign_of_ne _ _ hengine] at hg
        exact sw.names e he g hg
    · intro key hk c
      rw [count] at hk
      rw [registered_joined r (engines.registrations _ hk), sw.registered_iff key hk]
      simp [Kept, list, or_and_right, exists_or, Request.subscription, Subscription.Keeps,
        Phase.holds]

theorem released (sw : m.Swept) (hr : Reachable m) (hr' : Reachable m')
    (count : m'.engineCount = m.engineCount) {s : Subscription} {p : Phase}
    (h : ReleasedTo m s p m') : m'.Swept :=
  sw.of_same count (fun _ he => h.engines.registrations he) fun _ _ => h.kept_iff hr hr'

theorem returned (sw : m.Swept) (hr : Reachable m) (count : m'.engineCount = m.engineCount)
    {s : Subscription} {mask : UInt32} (h : ReturnedTo m s mask m')
    (carried : (m.engines s.key.engine).clears s.key.group mask = true) : m'.Swept := by
  have engines : m'.Shows m.engineCount m.policy (assign m.registrations s.key.engine
      (remaining (m.registrations s.key.engine) s.key.group mask)) := by
    obtain ⟨hfails, -⟩ | ⟨-, shows⟩ := h.engines
    · rw [carried] at hfails
      cases hfails
    · exact shows
  constructor
  · intro e he g hg
    rw [count] at he
    rw [engines.registrations e he] at hg
    by_cases hengine : e = s.key.engine
    · subst hengine
      rw [assign_self] at hg
      obtain ⟨hmap, hleft⟩ := List.mem_filter.mp hg
      obtain ⟨old, hold, rfl⟩ := List.mem_map.mp hmap
      obtain ⟨cs, hnames⟩ := sw.names _ he old hold
      exact hnames.cleared (by simpa using hleft)
    · rw [assign_of_ne _ _ hengine] at hg
      exact sw.names e he g hg
  · intro key hk c
    rw [count] at hk
    rw [registered_remaining (engines.registrations _ hk), sw.registered_iff key hk, h.kept_iff hr]

end Swept

def carriesOut (m : Monitor) : Action → Bool
  | .move (.unregister id) => (m.subscription? id).all fun s =>
    match s.phase with
    | .calling mask => (m.engines s.key.engine).clears s.key.group mask
    | _ => true
  | _ => true

theorem Swept.act (sw : m.Swept) (hr : Reachable m) (h : m.act? a = some m')
    (carried : m.carriesOut a = true) : m'.Swept := by
  cases a with
  | move mv =>
    have count : m'.engineCount = m.engineCount := (move?_sameCallers h).engineCount
    cases mv with
    | enter i =>
      have requests := hr.proper.requests
      obtain ⟨r, waits, -, hentered⟩ := enter?_entered (fun r hm => (requests r hm).engine) h
      exact sw.entered (requests r (List.mem_of_getElem? waits)).nonempty count hentered
    | release id =>
      obtain ⟨s, p, rfl, hreleased⟩ := release?_releasedTo h
      exact sw.released hr (hr.act h) count hreleased
    | unregister id =>
      obtain ⟨s, mask, rfl, hreturned⟩ := unregister?_returnedTo h
      apply sw.returned hr count hreturned
      simpa [carriesOut, hr.numbered.subscription?_of_mem hreturned.known, hreturned.calls]
        using carried
    | _ => exact sw.quiet hr h (by simp) (by simp) (by simp)
  | _ => exact sw.quiet hr h (by simp) (by simp) (by simp)

theorem swept_empty : Swept {} :=
  ⟨fun e he => absurd he (Nat.not_lt_zero e), fun key hk => absurd hk (Nat.not_lt_zero key.engine)⟩

theorem run_swept {as : List Action} (h : run? {} as = some m)
    (carried : throughout carriesOut {} as = true) : m.Swept := by
  refine run?_induction (P := fun as n => throughout carriesOut {} as = true → n.Swept)
    (fun _ => swept_empty) ?_ as m h carried
  intro bs n a n' hn ih ha hall
  rw [throughout_concat a hn, Bool.and_eq_true] at hall
  exact (ih hall.1).act ⟨bs, hn⟩ ha hall.2

def registeredMask (m : Monitor) (key : GroupKey) : UInt32 :=
  ((m.registrations key.engine).filter (·.group == key.group)).foldl (fun mask g => mask ||| g.mask) 0

def watched (m : Monitor) (key : GroupKey) : List Condition :=
  (m.subscriptions.filter fun s => s.key == key && s.phase.holds).flatMap (·.conditions)

theorem kept_iff_watched (free : m.isLocked key = false) : m.Kept key c ↔ c ∈ m.watched key := by
  simp only [watched, List.mem_flatMap, List.mem_filter, Bool.and_eq_true, beq_iff_eq]
  constructor
  · rintro ⟨s, hs, hk, ⟨holds, hc⟩ | ⟨mask, calls, -⟩⟩
    · exact ⟨s, ⟨hs, hk, holds⟩, hc⟩
    · exact absurd calls (not_calling_of_free free hs hk mask)
  · rintro ⟨s, ⟨hs, hk, holds⟩, hc⟩
    exact ⟨s, hs, hk, .inl ⟨holds, hc⟩⟩

theorem Swept.mask_bit (sw : m.Swept) (known : key.engine < m.engineCount) (i : Nat) :
    (m.registeredMask key).toBitVec.getLsbD i = true ↔ ∃ c, m.Registered key c ∧ c.index = i := by
  rw [registeredMask, Condition.union_bit]
  simp only [List.mem_filter, beq_iff_eq]
  constructor
  · rintro (hzero | ⟨g, ⟨hg, hgroup⟩, hbit⟩)
    · simp at hzero
    · obtain ⟨cs, -, hmask⟩ := sw.names _ known g hg
      rw [hmask, Condition.maskOf_bit] at hbit
      obtain ⟨c, hc, hi⟩ := hbit
      exact ⟨c, ⟨g, hg, hgroup, by simpa [hmask] using hc⟩, hi⟩
  · rintro ⟨c, ⟨g, hg, hgroup, hin⟩, rfl⟩
    rw [Condition.isIn_eq] at hin
    exact .inr ⟨g, ⟨hg, hgroup⟩, hin⟩

/-- As long as every unregister call that was made has been carried out, the engine has registered for a
group whose lock is free just what those watch there who have registered and not released it. No mask is
empty, so nothing is registered for a group that nobody holds any more. -/
theorem no_registration_leaks {as : List Action} (h : run? {} as = some m)
    (carried : throughout carriesOut {} as = true) (known : key.engine < m.engineCount)
    (free : m.isLocked key = false) :
    m.registeredMask key = Condition.maskOf (m.watched key) ∧
    (∀ g ∈ m.registrations key.engine, g.mask ≠ 0) ∧
    ((∀ s ∈ m.subscriptions, s.key = key → s.phase.holds = false) →
      ∀ g ∈ m.registrations key.engine, g.group ≠ key.group) := by
  have sw := run_swept h carried
  have registered (c : Condition) : m.Registered key c ↔ c ∈ m.watched key :=
    (sw.registered_iff key known c).trans (kept_iff_watched free)
  refine ⟨?_, fun g hg => ?_, fun nobody g hg hgroup => ?_⟩
  · apply Condition.eq_maskOf
    intro i _
    rw [sw.mask_bit known]
    simp only [registered]
  · obtain ⟨cs, hne, hmask⟩ := sw.names _ known g hg
    rw [hmask]
    exact Condition.maskOf_ne_zero hne
  · obtain ⟨cs, hne, hmask⟩ := sw.names _ known g hg
    obtain ⟨c, hc⟩ := List.exists_mem_of_ne_nil cs hne
    have hkept := (registered c).mp ⟨g, hg, hgroup, by simpa [hmask] using hc⟩
    simp only [watched, List.mem_flatMap, List.mem_filter, Bool.and_eq_true, beq_iff_eq] at hkept
    obtain ⟨s, ⟨hs, hk, holds⟩, -⟩ := hkept
    rw [nobody s hs hk] at holds
    cases holds

def overlap : List Action :=
  [.addEngine, .activate 0, .addToken none,
    .ask 0 { conditions := [.thermal, .xid], token := 0 }, .move (.enter 0),
    .ask 1 { conditions := [.power, .thermal], token := 0 }, .move (.enter 0)] ++
  [1, 2].flatMap fun id => [.move (.start id), .cancel id, .move (.leave id), .move (.detach id),
    .move (.release id), .move (.unregister id)]

theorem overlap_sweeps : ∃ m, run? {} overlap = some m ∧ throughout carriesOut {} overlap = true ∧
    m.registeredMask ⟨0, allGpus⟩ = 0 ∧ ∀ g ∈ m.registrations 0, g.group ≠ allGpus := by
  let m := (run? {} overlap).get (by decide +kernel)
  have hm : run? {} overlap = some m := by simp [m]
  have carried : throughout carriesOut {} overlap = true := by decide +kernel
  have known : (⟨0, allGpus⟩ : GroupKey).engine < m.engineCount := by decide +kernel
  have free : m.isLocked ⟨0, allGpus⟩ = false := by decide +kernel
  have nobody : m.watched ⟨0, allGpus⟩ = [] := by decide +kernel
  obtain ⟨mask, -, swept⟩ := no_registration_leaks hm carried known free
  refine ⟨m, hm, carried, ?_, swept (by decide +kernel)⟩
  rw [mask, nobody]
  rfl

end Monitor

end GpuTelemetry
