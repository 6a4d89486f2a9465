import GpuTelemetry.Proofs.Requests

/-!
What an action does to the conditions that are held, to the policies and to the registrations: nothing
at all, or what one section of a subscribe call or of a teardown does to a single group.
-/

namespace GpuTelemetry

structure Subscription.SameHold (s s' : Subscription) : Prop where
  id : s'.id = s.id
  key : s'.key = s.key
  conditions : s'.conditions = s.conditions
  thresholds : s'.thresholds = s.thresholds
  holds : s'.phase.holds = s.phase.holds
  calls : ∀ mask, s'.phase = .calling mask → s.phase = .calling mask

theorem Subscription.SameHold.refl (s : Subscription) : s.SameHold s :=
  ⟨rfl, rfl, rfl, rfl, rfl, fun _ h => h⟩

theorem Subscription.Step.sameHold {m : Monitor} {s s' : Subscription} {a : Action}
    {acc out : List Violation} (h : s.Step m a acc out s') (ha : a ≠ .move (.release s.id)) :
    s.SameHold s' := by
  refine ⟨h.id_eq, h.key_eq, h.conditions_eq, h.thresholds_eq, ?_, ?_⟩
  · cases h with
    | released | called => exact absurd rfl ha
    | started phase | left phase | detached phase | returned _ phase | closed phase
    | finished phase => simp [phase, Phase.holds]
    | _ => rfl
  · intro mask hp
    cases h with
    | released | called => exact absurd rfl ha
    | started | left | detached | returned | closed | finished => cases hp
    | _ => exact hp

namespace Monitor

variable {m m' : Monitor}

def SameHolders (m m' : Monitor) : Prop :=
  ∃ next : Subscription → Subscription, m'.subscriptions = m.subscriptions.map next ∧
    ∀ s ∈ m.subscriptions, s.SameHold (next s)

theorem sameHolders_of_eq (h : m'.subscriptions = m.subscriptions) : SameHolders m m' :=
  ⟨id, by simp [h], fun s _ => .refl s⟩

theorem SameHolders.origin (h : SameHolders m m') {s' : Subscription} (hs : s' ∈ m'.subscriptions) :
    ∃ s ∈ m.subscriptions, s.SameHold s' := by
  obtain ⟨next, list, hold⟩ := h
  rw [list] at hs
  obtain ⟨s, hm, rfl⟩ := List.mem_map.mp hs
  exact ⟨s, hm, hold s hm⟩

theorem Evolves.sameHolders {a : Action} (h : Evolves m a m') (he : ∀ i, a ≠ .move (.enter i))
    (hr : ∀ id, a ≠ .move (.release id)) : SameHolders m m' := by
  obtain ⟨next, added, list, step, -, hadded, -⟩ := h
  have hnone : added = [] := by
    obtain hnil | ⟨s, -, ⟨i, r, ha, -⟩, -⟩ := hadded
    · exact hnil
    · exact absurd ha (he i)
  refine ⟨next, by rw [list, hnone, List.append_nil], fun s hs => ?_⟩
  obtain ⟨acc, out, hstep, -, -⟩ := step s hs
  exact hstep.sameHold (hr s.id)

structure Shows (m : Monitor) (count : Nat) (policies : GroupKey → Option Policy)
    (registrations : Nat → List Registration) : Prop where
  policies : ∀ key : GroupKey, key.engine < count → m.policy key = policies key
  registrations : ∀ e < count, m.registrations e = registrations e

theorem Shows.then_same {P : GroupKey → Option Policy} {R : Nat → List Registration}
    (h : m.Shows m.engineCount P R) (same : SameEngines m m') : m'.Shows m.engineCount P R :=
  ⟨fun key hk => (same.policy hk).trans (h.policies key hk),
    fun e he => (same.registrations he).trans (h.registrations e he)⟩

theorem sameEngines_fail (m : Monitor) (r : Request) (f : Failure) : SameEngines m (m.fail r f) :=
  sameEngines_reap (m.note (.subscribed r.ticket (.error f))) r.key.engine

theorem shows_call {α : Type} (m : Monitor) (e : Nat) (what : EngineCall)
    (answer : α → Option Status) (act : Engine → α × Engine × List Native.Call)
    {policies : GroupId → Option Policy} {registrations : List Registration}
    (hp : (act (m.engines e)).2.1.sim.policies = policies)
    (hr : (act (m.engines e)).2.1.sim.registrations = registrations) :
    (m.call e what answer act).2.Shows m.engineCount
      (fun key => if key.engine = e then policies key.group else m.policy key)
      (assign m.registrations e registrations) := by
  refine ⟨fun key _ => ?_, fun k _ => ?_⟩
  · by_cases hk : key.engine = e
    · simp [policy, call, adjust, note, noteNative, hk, hp]
    · simp [policy, call, adjust, note, noteNative, hk]
  · by_cases hk : k = e
    · subst hk
      simp [Monitor.registrations, call, adjust, note, noteNative, hr]
    · simp [Monitor.registrations, call, adjust, note, noteNative, hk]

end Monitor

def Request.registration (r : Request) (id : Nat) : Registration where
  group := r.key.group
  mask := Condition.maskOf r.conditions
  user := id

namespace Monitor

variable {m m' : Monitor} (r : Request)

theorem askPolicy_effect (m : Monitor) :
    ((m.askPolicy r).1.isOk = false ∧ SameEngines m (m.askPolicy r).2) ∨
      ((m.askPolicy r).1.isOk = true ∧ (m.askPolicy r).2.Shows m.engineCount
        (assign m.policy r.key (some (m.policyFor r))) m.registrations) := by
  obtain ⟨hbad, hsame⟩ | ⟨hok, hp, hr⟩ :=
    (m.engines r.key.engine).setPolicy_cases r.key.group (m.policyFor r)
  · refine .inl ⟨hbad, sameEngines_call m _ _ _ _ ?_⟩
    rw [hsame]
    exact .refl _
  · refine .inr ⟨hok, ?_⟩
    have hshows := shows_call m r.key.engine (.setPolicy r.key.group (m.policyFor r)) some
      (·.setPolicy r.key.group (m.policyFor r)) hp hr
    refine ⟨fun key hk => (hshows.policies key hk).trans ?_,
      fun e he => (hshows.registrations e he).trans ?_⟩
    · obtain ⟨e, g⟩ := key
      by_cases he : e = r.key.engine
      · subst he
        by_cases hg : g = r.key.group
        · subst hg
          simp
        · have hne : (⟨r.key.engine, g⟩ : GroupKey) ≠ r.key := fun h => hg (congrArg (·.group) h)
          simp [assign_of_ne _ _ hne, hg, policy]
      · have hne : (⟨e, g⟩ : GroupKey) ≠ r.key := fun h => he (congrArg (·.engine) h)
        simp [assign_of_ne _ _ hne, he]
    · by_cases hk : e = r.key.engine
      · subst hk
        simp [Monitor.registrations]
      · simp [hk]

theorem askRegistration_effect (m : Monitor) :
    ((m.askRegistration r).1.isOk = false ∧ SameEngines m (m.askRegistration r).2) ∨
      ((m.askRegistration r).1.isOk = true ∧ (m.askRegistration r).2.Shows m.engineCount m.policy
        (assign m.registrations r.key.engine
          (m.registrations r.key.engine ++ [r.registration (m.lastId + 1)]))) := by
  let entered : Monitor := { m with lastId := m.lastId + 1, registry := (m.lastId + 1) :: m.registry }
  obtain ⟨hbad, hsame⟩ | ⟨hok, hp, hr⟩ := (m.engines r.key.engine).register_cases r.key.group
    (Condition.maskOf r.conditions) (m.lastId + 1)
  · refine .inl ⟨hbad, sameEngines_call entered _ _ _ _ ?_⟩
    change (m.engines r.key.engine).SamePolicies _
    rw [hsame]
    exact .refl _
  · refine .inr ⟨hok, ?_⟩
    have hshows := shows_call entered r.key.engine
      (.register r.key.group (Condition.maskOf r.conditions) (m.lastId + 1)) some
      (·.register r.key.group (Condition.maskOf r.conditions) (m.lastId + 1)) hp hr
    refine ⟨fun key hk => (hshows.policies key hk).trans ?_, hshows.registrations⟩
    by_cases he : key.engine = r.key.engine
    · simp [he, policy]
    · simp only [he, if_false]
      rfl

def remaining (registrations : List Registration) (group : GroupId) (mask : UInt32) :
    List Registration :=
  (registrations.map (·.cleared group mask)).filter (·.mask != 0)

theorem afterUnregister_effect (m : Monitor) (key : GroupKey) (mask : UInt32) :
    ((m.engines key.engine).clears key.group mask = false ∧
        SameEngines m (m.afterUnregister key mask)) ∨
      ((m.engines key.engine).clears key.group mask = true ∧
        (m.afterUnregister key mask).Shows m.engineCount m.policy (assign m.registrations key.engine
          (remaining (m.registrations key.engine) key.group mask))) := by
  obtain ⟨hclears, hsame⟩ | ⟨hclears, hp, hr⟩ :=
    (m.engines key.engine).unregister_cases key.group mask
  · exact .inl ⟨hclears, sameEngines_call m _ _ _ _ hsame⟩
  · have hshows := shows_call m key.engine (.unregister key.group mask) (fun answer => answer)
      (·.unregister key.group mask) hp hr
    refine .inr ⟨hclears, fun k hk => (hshows.policies k hk).trans ?_, hshows.registrations⟩
    by_cases he : k.engine = key.engine
    · simp [he, policy]
    · simp [he]

def watchFor (m : Monitor) (r : Request) : Watch :=
  { (m.groups r.key).hold r.conditions with thresholds := m.agreed r }

def due (m : Monitor) (s : Subscription) : UInt32 := ((m.groups s.key).release s.conditions).2

inductive Effect (m : Monitor) : Action → Monitor → Prop
  | quiet {a : Action} {m' : Monitor} (groups : m'.groups = m.groups)
      (engines : SameEngines m m') (holders : SameHolders m m') : Effect m a m'
  | replaced {i : Nat} {m' : Monitor} (r : Request) (waits : m.requests[i]? = some r)
      (free : m.isLocked r.key = false) (groups : m'.groups = m.groups)
      (engines : m'.Shows m.engineCount (assign m.policy r.key (some (m.policyFor r))) m.registrations)
      (list : m'.subscriptions = m.subscriptions) : Effect m (.move (.enter i)) m'
  | joined {i : Nat} {m' : Monitor} (r : Request) (waits : m.requests[i]? = some r)
      (free : m.isLocked r.key = false) (groups : m'.groups = assign m.groups r.key (m.watchFor r))
      (engines : m'.Shows m.engineCount (assign m.policy r.key (some (m.policyFor r)))
        (assign m.registrations r.key.engine
          (m.registrations r.key.engine ++ [r.registration (m.lastId + 1)])))
      (list : m'.subscriptions =
        m.subscriptions ++ [r.subscription (m.lastId + 1) (m.scopeOf r.token)]) :
      Effect m (.move (.enter i)) m'
  | released {m' : Monitor} (s : Subscription) (known : s ∈ m.subscriptions)
      (waits : s.phase = .waiting) (free : m.isLocked s.key = false) (p : Phase)
      (outcome : m.due s = 0 ∧ p = .released ∨ m.due s ≠ 0 ∧ p = .calling (m.due s))
      (groups : m'.groups = (m.afterRelease s.key s.conditions).groups)
      (engines : SameEngines m m')
      (list : m'.subscriptions = (m.update s.id fun s => { s with phase := p }).subscriptions) :
      Effect m (.move (.release s.id)) m'
  | cleared {m' : Monitor} (s : Subscription) (known : s ∈ m.subscriptions) (mask : UInt32)
      (calls : s.phase = .calling mask) (groups : m'.groups = m.groups)
      (engines : m'.Shows m.engineCount m.policy (assign m.registrations s.key.engine
        (remaining (m.registrations s.key.engine) s.key.group mask)))
      (holders : SameHolders m m') : Effect m (.move (.unregister s.id)) m'

theorem registrationRefused_sameEngines (m : Monitor) (registry : List Nat) (f : Failure)
    (refused : (m.askRegistration r).1.isOk = false) :
    SameEngines m ({ (m.askRegistration r).2 with registry }.fail r f) := by
  obtain ⟨-, hsame⟩ | ⟨hok, -⟩ := askRegistration_effect r m
  · let left : Monitor := { (m.askRegistration r).2 with registry }
    have hleft : SameEngines m left := hsame
    exact hleft.trans rfl (sameEngines_fail left r f)
  · simp [hok] at refused

theorem joined_shows (m : Monitor) {P : GroupKey → Option Policy} {R : Nat → List Registration}
    (h : m.Shows m.engineCount P R) (known : r.key.engine < m.engineCount)
    (registered : (m.askRegistration r).1.isOk = true) :
    ((m.askRegistration r).2.join r).Shows m.engineCount P
      (assign R r.key.engine (R r.key.engine ++ [r.registration (m.lastId + 1)])) := by
  obtain ⟨hbad, -⟩ | ⟨-, hreg⟩ := askRegistration_effect r m
  · simp [hbad] at registered
  · refine ⟨fun key hk => (hreg.policies key hk).trans (h.policies key hk),
      fun e he => (hreg.registrations e he).trans ?_⟩
    by_cases hk : e = r.key.engine
    · subst hk
      simp [h.registrations _ known]
    · simp [hk, h.registrations e he]

theorem outcome?_noteNative (m : Monitor) (e : Option Nat) (calls : List Native.Call) (ticket : Nat) :
    (m.noteNative e calls).outcome? ticket = m.outcome? ticket := by
  rw [outcome?, noteNative, List.findSome?_append, List.findSome?_eq_none_iff.mpr, Option.none_or]
  · rfl
  · intro event hevent
    obtain ⟨call, -, rfl⟩ := List.mem_map.mp (List.mem_reverse.mp hevent)
    rfl

theorem outcome?_fail (m : Monitor) (f : Failure) :
    (m.fail r f).outcome? r.ticket = some (.error f) := by
  refine (outcome?_noteNative _ _ _ _).trans ?_
  simp [outcome?, adjust, note]

inductive Entered (m : Monitor) (r : Request) : Monitor → Prop
  | policyRefused {m' : Monitor} (f : Failure) (refused : (m.askPolicy r).1.isOk = false)
      (groups : m'.groups = m.groups) (engines : SameEngines m m')
      (list : m'.subscriptions = m.subscriptions)
      (outcome : m'.outcome? r.ticket = some (.error f)) : Entered m r m'
  | registrationRefused {m' : Monitor} (f : Failure) (accepted : (m.askPolicy r).1.isOk = true)
      (groups : m'.groups = m.groups)
      (engines : m'.Shows m.engineCount (assign m.policy r.key (some (m.policyFor r)))
        m.registrations)
      (list : m'.subscriptions = m.subscriptions)
      (outcome : m'.outcome? r.ticket = some (.error f)) : Entered m r m'
  | joined {m' : Monitor} (groups : m'.groups = assign m.groups r.key (m.watchFor r))
      (engines : m'.Shows m.engineCount (assign m.policy r.key (some (m.policyFor r)))
        (assign m.registrations r.key.engine
          (m.registrations r.key.engine ++ [r.registration (m.lastId + 1)])))
      (list : m'.subscriptions =
        m.subscriptions ++ [r.subscription (m.lastId + 1) (m.scopeOf r.token)])
      (outcome : m'.outcome? r.ticket = some (.ok (m.lastId + 1))) : Entered m r m'

theorem enter?_entered {i : Nat} (known : ∀ r ∈ m.requests, r.key.engine < m.engineCount)
    (h : m.enter? i = some m') :
    ∃ r, m.requests[i]? = some r ∧ m.isLocked r.key = false ∧ Entered m r m' := by
  obtain ⟨r, hr, hl, hm⟩ := enter?_cases h
  refine ⟨r, hr, hl, ?_⟩
  have hend := enrol_cases { m with requests := m.requests.eraseIdx i } r
  have hpolicy := askPolicy_effect r { m with requests := m.requests.eraseIdx i }
  rw [← hm] at hend
  cases hend with
  | policyRefused refused =>
    obtain ⟨-, hsame⟩ | ⟨hok, -⟩ := hpolicy
    · exact .policyRefused _ refused rfl (hsame.trans rfl (sameEngines_fail _ r _)) rfl
        (outcome?_fail r _ _)
    · simp [hok] at refused
  | registrationRefused o ho accepted refused =>
    obtain ⟨hbad, -⟩ | ⟨-, hset⟩ := hpolicy
    · simp [hbad] at accepted
    · rw [← ho] at hset
      have hsame := registrationRefused_sameEngines r o m.registry
        (.ofStatus Native.Symbol.policyRegister.name (o.askRegistration r).1) refused
      subst ho
      exact .registrationRefused _ accepted rfl (hset.then_same hsame) rfl (outcome?_fail r _ _)
  | joined o ho accepted registered =>
    obtain ⟨hbad, -⟩ | ⟨-, hset⟩ := hpolicy
    · simp [hbad] at accepted
    · rw [← ho] at hset
      subst ho
      have hjoined := joined_shows r _ hset (known r (List.mem_of_getElem? hr)) registered
      refine .joined rfl hjoined rfl ?_
      simp [outcome?, join]
      rfl

theorem enter?_effect {i : Nat} (known : ∀ r ∈ m.requests, r.key.engine < m.engineCount)
    (h : m.enter? i = some m') : Effect m (.move (.enter i)) m' := by
  obtain ⟨r, hr, hl, hentered⟩ := enter?_entered known h
  cases hentered with
  | policyRefused f refused groups engines list => exact .quiet groups engines (sameHolders_of_eq list)
  | registrationRefused f accepted groups engines list => exact .replaced r hr hl groups engines list
  | joined groups engines list => exact .joined r hr hl groups engines list

structure ReleasedTo (m : Monitor) (s : Subscription) (p : Phase) (m' : Monitor) : Prop where
  known : s ∈ m.subscriptions
  waits : s.phase = .waiting
  free : m.isLocked s.key = false
  outcome : m.due s = 0 ∧ p = .released ∨ m.due s ≠ 0 ∧ p = .calling (m.due s)
  groups : m'.groups = (m.afterRelease s.key s.conditions).groups
  engines : SameEngines m m'
  list : m'.subscriptions = (m.update s.id fun s => { s with phase := p }).subscriptions

theorem ReleasedTo.mem {s : Subscription} {p : Phase} (h : ReleasedTo m s p m') :
    { s with phase := p } ∈ m'.subscriptions := by
  rw [h.list]
  exact List.mem_map.mpr ⟨s, h.known, if_pos rfl⟩

theorem not_holds_of_outcome {mask : UInt32} {p : Phase}
    (h : mask = 0 ∧ p = .released ∨ mask ≠ 0 ∧ p = .calling mask) : p.holds = false := by
  obtain ⟨-, rfl⟩ | ⟨-, rfl⟩ := h <;> rfl

theorem release?_releasedTo {id : Nat} (h : m.release? id = some m') :
    ∃ s p, s.id = id ∧ ReleasedTo m s p m' := by
  obtain ⟨s, hs, rfl, hp, hl, mask, hmask, ⟨hz, rfl⟩ | ⟨hz, rfl⟩⟩ := release?_cases h
  · let after := (m.afterRelease s.key s.conditions).update s.id fun s => { s with phase := .released }
    have hreap : SameEngines m (after.reap s.key.engine) := sameEngines_reap after s.key.engine
    exact ⟨s, .released, rfl, hs, hp, hl, .inl ⟨hmask.trans hz, rfl⟩, rfl, hreap, rfl⟩
  · subst hmask
    exact ⟨s, _, rfl, hs, hp, hl, .inr ⟨hz, rfl⟩, rfl, .refl m, rfl⟩

theorem release?_effect {id : Nat} (h : m.release? id = some m') :
    Effect m (.move (.release id)) m' := by
  obtain ⟨s, p, rfl, known, waits, free, outcome, groups, engines, list⟩ := release?_releasedTo h
  exact .released s known waits free p outcome groups engines list

structure ReturnedTo (m : Monitor) (s : Subscription) (mask : UInt32) (m' : Monitor) : Prop where
  known : s ∈ m.subscriptions
  calls : s.phase = .calling mask
  groups : m'.groups = m.groups
  engines :
    ((m.engines s.key.engine).clears s.key.group mask = false ∧ SameEngines m m') ∨
      ((m.engines s.key.engine).clears s.key.group mask = true ∧
        m'.Shows m.engineCount m.policy (assign m.registrations s.key.engine
          (remaining (m.registrations s.key.engine) s.key.group mask)))
  list : m'.subscriptions = (m.update s.id fun s => { s with phase := .released }).subscriptions

theorem unregister?_returnedTo {id : Nat} (h : m.unregister? id = some m') :
    ∃ s mask, s.id = id ∧ ReturnedTo m s mask m' := by
  obtain ⟨s, hs, rfl, mask, hp, -, rfl⟩ := unregister?_cases h
  let after := (m.afterUnregister s.key mask).update s.id fun s => { s with phase := .released }
  have hreap : SameEngines (m.afterUnregister s.key mask) (after.reap s.key.engine) :=
    sameEngines_reap after s.key.engine
  refine ⟨s, mask, rfl, hs, hp, rfl, ?_, rfl⟩
  obtain ⟨hclears, hsame⟩ | ⟨hclears, hshows⟩ := afterUnregister_effect m s.key mask
  · exact .inl ⟨hclears, hsame.trans rfl hreap⟩
  · exact .inr ⟨hclears, hshows.then_same hreap⟩

theorem unregister?_effect {id : Nat} (n : m.Numbered) (h : m.unregister? id = some m') :
    Effect m (.move (.unregister id)) m' := by
  have holders := (unregister?_evolves n h).sameHolders (by simp) (by simp)
  obtain ⟨s, mask, rfl, known, calls, groups, ⟨-, same⟩ | ⟨-, shows⟩, -⟩ := unregister?_returnedTo h
  · exact .quiet groups same holders
  · exact .cleared s known mask calls groups shows holders

theorem act?_effect {a : Action} (n : m.Numbered)
    (known : ∀ r ∈ m.requests, r.key.engine < m.engineCount) (h : m.act? a = some m') :
    Effect m a m' := by
  cases ha : a.changesTables with
  | false =>
    have same := act?_sameTables h ha
    have holders := (act?_evolves n h).sameHolders (by rintro i rfl; cases ha)
      (by rintro id rfl; cases ha)
    exact .quiet same.groups same.engines holders
  | true =>
    cases a with
    | move mv =>
      cases mv with
      | enter => exact enter?_effect known h
      | detach id =>
        have holders := (detach?_evolves n h).sameHolders (by simp) (by simp)
        obtain ⟨s, -, -, -, rfl⟩ := detach?_cases h
        exact .quiet rfl (.refl m) holders
      | release => exact release?_effect h
      | unregister => exact unregister?_effect n h
      | _ => cases ha
    | _ => cases ha

theorem Reachable.effect {a : Action} (hr : Reachable m) (h : m.act? a = some m') : Effect m a m' :=
  act?_effect hr.numbered (fun r hm => (hr.proper.requests r hm).engine) h

end Monitor

end GpuTelemetry
