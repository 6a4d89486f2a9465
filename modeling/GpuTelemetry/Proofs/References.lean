import GpuTelemetry.Proofs.Requests

namespace GpuTelemetry

theorem Subscription.Step.usesEngine_eq {m : Monitor} {s s' : Subscription} {a : Action}
    {acc out : List Violation} (h : s.Step m a acc out s') (releases : a ≠ .move (.release s.id))
    (unregisters : a ≠ .move (.unregister s.id)) : s'.phase.usesEngine = s.phase.usesEngine := by
  cases h with
  | released | called => exact absurd rfl releases
  | returned => exact absurd rfl unregisters
  | started phase | left phase | detached phase | closed phase | finished phase =>
    simp [phase, Phase.usesEngine]
  | _ => rfl

namespace Monitor

variable {m m' n : Monitor} {a : Action} {e : Nat}

def inUse (m : Monitor) (e : Nat) : Bool :=
  m.subscriptions.any fun s => s.key.engine == e && s.phase.usesEngine

theorem inUse_iff : m.inUse e = true ↔
    ∃ s ∈ m.subscriptions, s.key.engine = e ∧ s.phase.usesEngine = true := by
  simp [inUse]

theorem isReferenced_iff : m.isReferenced e = true ↔
    (m.engines e).owned = true ∨ m.active = some e ∨ (∃ r ∈ m.requests, r.key.engine = e) ∨
      m.inUse e = true := by
  simp [isReferenced, inUse, or_assoc]

theorem isReferenced_congr (owned : (m'.engines e).owned = (m.engines e).owned)
    (active : m'.active = m.active)
    (requests : m'.requests.any (·.key.engine == e) = m.requests.any (·.key.engine == e))
    (use : m'.inUse e = m.inUse e) : m'.isReferenced e = m.isReferenced e := by
  unfold inUse at use
  rw [isReferenced, owned, active, requests, use, isReferenced]

def SameReferences (m m' : Monitor) : Prop := ∀ e, m'.isReferenced e = m.isReferenced e

theorem sameReferences_of (owners : SameOwners m m') (active : m'.active = m.active)
    (requests : m'.requests = m.requests) (use : ∀ e, m'.inUse e = m.inUse e) :
    SameReferences m m' :=
  fun e => isReferenced_congr (owners e) active (by rw [requests]) (use e)

theorem sameReferences_reap (m : Monitor) (k : Nat) : SameReferences m (m.reap k) :=
  sameReferences_of (sameOwners_reap m k) rfl rfl fun _ => rfl

theorem Evolves.inUse (h : Evolves m a m') (enters : ∀ i, a ≠ .move (.enter i))
    (releases : ∀ id, a ≠ .move (.release id)) (unregisters : ∀ id, a ≠ .move (.unregister id))
    (e : Nat) : m'.inUse e = m.inUse e := by
  rw [Bool.eq_iff_iff, inUse_iff, inUse_iff]
  constructor
  · rintro ⟨s', hs', hkey, huses⟩
    obtain ⟨s, hs, acc, out, step, -, -⟩ | ⟨i, r, ha, -⟩ := h.origin hs'
    · rw [step.key_eq] at hkey
      rw [step.usesEngine_eq (releases s.id) (unregisters s.id)] at huses
      exact ⟨s, hs, hkey, huses⟩
    · exact absurd ha (enters i)
  · rintro ⟨s, hs, hkey, huses⟩
    obtain ⟨s', hs', acc, out, step, -, -⟩ := h.successor hs
    rw [← step.key_eq] at hkey
    rw [← step.usesEngine_eq (releases s.id) (unregisters s.id)] at huses
    exact ⟨s', hs', hkey, huses⟩

theorem Numbered.inUse_update (nm : m.Numbered) {s : Subscription} (hs : s ∈ m.subscriptions)
    {p : Phase} (h : e ≠ s.key.engine ∨ p.usesEngine = s.phase.usesEngine) :
    (m.update s.id fun s => { s with phase := p }).inUse e = m.inUse e := by
  rw [Bool.eq_iff_iff, inUse_iff, inUse_iff]
  constructor
  · rintro ⟨t, ht, hkey, huses⟩
    obtain rfl | ⟨ht, -⟩ := (nm.mem_update_iff hs _).mp ht
    · obtain hne | hsame := h
      · exact absurd hkey.symm hne
      · exact ⟨s, hs, hkey, hsame ▸ huses⟩
    · exact ⟨t, ht, hkey, huses⟩
  · rintro ⟨t, ht, hkey, huses⟩
    by_cases hid : t.id = s.id
    · obtain rfl := nm.eq_of_id ht hs hid
      obtain hne | hsame := h
      · exact absurd hkey.symm hne
      · exact ⟨_, (nm.mem_update_iff hs _).mpr (.inl rfl), hkey, hsame.trans huses⟩
    · exact ⟨t, (nm.mem_update_iff hs _).mpr (.inr ⟨ht, hid⟩), hkey, huses⟩

theorem inUse_joined {r : Request} {id : Nat} {scope : Scope}
    (list : m'.subscriptions = m.subscriptions ++ [r.subscription id scope])
    (other : e ≠ r.key.engine) : m'.inUse e = m.inUse e := by
  have hkey : (r.key.engine == e) = false := by simpa using Ne.symm other
  simp [inUse, list, Request.subscription, hkey]

theorem resolve_referenced {engine : Option Nat} (h : m.resolve engine = .ok e) :
    m.isReferenced e = true := by
  rw [isReferenced_iff]
  obtain ⟨-, howned⟩ | ⟨-, hactive⟩ := resolve_ok h
  · exact .inl howned
  · exact .inr (.inl hactive)

theorem requestOf_referenced {ticket : Nat} {w : Wish} {r : Request}
    (h : m.requestOf ticket w = .ok r) : m.isReferenced r.key.engine = true := by
  obtain ⟨e, he, -, rfl⟩ := requestOf_ok h
  exact resolve_referenced he

theorem isReferenced_of_request {r : Request} (h : r ∈ m.requests) :
    m.isReferenced r.key.engine = true :=
  isReferenced_iff.mpr (.inr (.inr (.inl ⟨r, h, rfl⟩)))

theorem isReferenced_of_use {s : Subscription} (h : s ∈ m.subscriptions)
    (uses : s.phase.usesEngine = true) : m.isReferenced s.key.engine = true :=
  isReferenced_iff.mpr (.inr (.inr (.inr (inUse_iff.mpr ⟨s, h, rfl, uses⟩))))

theorem ask_sameReferences (m : Monitor) (ticket : Nat) (w : Wish) :
    SameReferences m (m.ask ticket w) := by
  unfold ask
  cases hr : m.requestOf ticket w with
  | error f => exact fun _ => rfl
  | ok r =>
    intro e
    by_cases he : r.key.engine = e
    · have hkept : ({ m with requests := m.requests ++ [r] } : Monitor).isReferenced e = true :=
        he ▸ isReferenced_of_request (by simp)
      exact hkept.trans (he ▸ (requestOf_referenced hr).symm)
    · exact isReferenced_congr rfl rfl (by simp [he]) rfl

theorem move?_requests {mv : Move} (enters : ∀ i, mv ≠ .enter i) (h : m.move? mv = some m') :
    m'.requests = m.requests := by
  cases mv with
  | enter i => exact absurd rfl (enters i)
  | start =>
    obtain ⟨s, -, -, -, rfl⟩ := start?_cases h
    rfl
  | take =>
    obtain ⟨s, -, -, v, rest, -, -, -, rfl⟩ := take?_cases h
    rfl
  | send =>
    obtain ⟨s, -, -, v, -, -, -, rfl⟩ := send?_cases h
    rfl
  | leave =>
    obtain ⟨s, -, -, -, -, rfl⟩ := leave?_cases h
    rfl
  | detach =>
    obtain ⟨s, -, -, -, rfl⟩ := detach?_cases h
    rfl
  | release =>
    obtain ⟨s, -, -, -, -, mask, -, ⟨-, rfl⟩ | ⟨-, rfl⟩⟩ := release?_cases h <;> rfl
  | unregister =>
    obtain ⟨s, -, -, mask, -, -, rfl⟩ := unregister?_cases h
    rfl
  | close =>
    obtain ⟨s, -, -, -, rfl⟩ := close?_cases h
    rfl
  | finish =>
    obtain ⟨s, -, -, -, rfl⟩ := finish?_cases h
    rfl
  | launch =>
    obtain ⟨f, -, -, -, firings, rfl⟩ := launch?_cases h
    rfl
  | callBack =>
    obtain ⟨f, target, rest, n, -, -, hd, rfl⟩ := callBack?_cases h
    cases hd <;> rfl
  | report =>
    obtain ⟨f, -, -, -, rfl⟩ := report?_cases h
    rfl

theorem act?_requests (asks : ∀ ticket w, a ≠ .ask ticket w) (enters : ∀ i, a ≠ .move (.enter i))
    (h : m.act? a = some m') : m'.requests = m.requests := by
  cases a with
  | ask ticket w => exact absurd rfl (asks ticket w)
  | addEngine | set | addToken | cancelToken | cancel | dropReader | fire | fireAt =>
    cases h
    rfl
  | openAt load mode path =>
    cases h
    obtain ⟨f | c, calls⟩ := Native.openAt load mode path <;> rfl
  | openAny load mode override =>
    cases h
    obtain ⟨f | c, calls⟩ := Native.openAny load mode override <;> rfl
  | errorString e code =>
    cases h
    unfold errorString
    split <;> rfl
  | activate e =>
    simp only [act?] at h
    split at h
    · cases h
      simp only [Monitor.activate]
      cases m.active <;> rfl
    · cases h
  | deactivate =>
    cases h
    simp only [Monitor.deactivate]
    cases m.active <;> rfl
  | disown e =>
    simp only [act?] at h
    split at h
    · cases h
      rfl
    · cases h
  | receive id =>
    cases h
    unfold Monitor.receive receiveNone
    split
    · rfl
    · split
      · split <;> rfl
      · split
        · rfl
        · split <;> rfl
  | collect engine q script =>
    cases h
    unfold Monitor.collect
    split <;> rfl
  | snapshot engine entities fields flags script =>
    cases h
    unfold Monitor.snapshot
    split
    · rfl
    · split <;> rfl
  | move mv => exact move?_requests (fun i hi => enters i (congrArg Action.move hi)) h

end Monitor

end GpuTelemetry
