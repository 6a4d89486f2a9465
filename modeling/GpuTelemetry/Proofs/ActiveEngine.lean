import GpuTelemetry.Proofs.Refusals

namespace GpuTelemetry

def EngineCall.group? : EngineCall → Option GroupId
  | .setPolicy group _ | .register group _ _ | .unregister group _ => some group
  | .history .. | .snapshot .. => none

def Action.target? (m : Monitor) : Action → Option GroupKey
  | .move (.enter i) => m.requests[i]?.map (·.key)
  | .move (.release id) | .move (.unregister id) => (m.subscription? id).map (·.key)
  | _ => none

namespace Monitor

variable {m m' : Monitor} {a : Action} {as : List Action} {key : GroupKey}

def Asked (as : List Action) (r : Request) : Prop :=
  ∃ before w after n, as = before ++ .ask r.ticket w :: after ∧ run? {} before = some n ∧
    n.requestOf r.ticket w = .ok r ∧ w.group = r.key.group ∧
    (w.engine = some r.key.engine ∨ w.engine = none ∧ n.active = some r.key.engine)

def Joined (as : List Action) (s : Subscription) : Prop :=
  ∃ before i after n r, as = before ++ .move (.enter i) :: after ∧ run? {} before = some n ∧
    n.requests[i]? = some r ∧ Asked before r ∧ s.id = n.lastId + 1 ∧ s.key = r.key

section lineage

theorem Asked.append {r : Request} (h : Asked as r) (bs : List Action) : Asked (as ++ bs) r := by
  obtain ⟨before, w, after, n, rfl, hn⟩ := h
  exact ⟨before, w, after ++ bs, n, by simp, hn⟩

theorem requests_asked (h : run? {} as = some m) : ∀ r ∈ m.requests, Asked as r := by
  refine run?_induction (P := fun as m => ∀ r ∈ m.requests, Asked as r) (by simp) ?_ as m h
  intro as n a n' hn ih ha r hr
  have earlier (hr : r ∈ n.requests) : Asked (as ++ [a]) r := (ih r hr).append [a]
  cases act?_callerEffect ha with
  | none same => exact earlier (same.requests r hr)
  | engine e same => exact earlier (same.requests r hr)
  | active active owned same => exact earlier (same.requests r hr)
  | disowned e same => exact earlier (same.requests r hr)
  | token | cancelled => exact earlier hr
  | asked ticket w q fits =>
    obtain hr | hr := List.mem_append.mp hr
    · exact earlier hr
    · obtain rfl := List.mem_singleton.mp hr
      obtain ⟨e, he, -, rfl⟩ := requestOf_ok fits
      exact ⟨as, w, [], n, rfl, hn, fits, rfl, (resolve_ok he).imp_left And.left⟩

theorem subscriptions_joined (h : run? {} as = some m) : ∀ s ∈ m.subscriptions, Joined as s := by
  refine run?_induction (P := fun as m => ∀ s ∈ m.subscriptions, Joined as s) (by simp) ?_ as m h
  intro as n a n' hn ih ha s' hs'
  have hr : Reachable n := ⟨as, hn⟩
  obtain ⟨s, hs, acc, out, step, -, -⟩ | ⟨i, r, rfl, waits, -, rfl⟩ := (hr.evolves ha).origin hs'
  · obtain ⟨before, i, after, o, r, rfl, ho, waits, asked, id, key⟩ := ih s hs
    exact ⟨before, i, after ++ [a], o, r, by simp, ho, waits, asked, step.id_eq.trans id,
      step.key_eq.trans key⟩
  · exact ⟨as, i, [], n, r, rfl, hn, waits, requests_asked hn r (List.mem_of_getElem? waits), rfl, rfl⟩

end lineage

section confined

structure Confined (m : Monitor) (target : Option GroupKey) (m' : Monitor) : Prop where
  calls : ∃ made, m'.calls = m.calls ++ made ∧
    ∀ e call, (e, call) ∈ made → ∀ g, call.group? = some g → target = some ⟨e, g⟩
  groups : ∀ key, target ≠ some key → m'.groups key = m.groups key
  policies : ∀ key, key.engine < m.engineCount → target ≠ some key → m'.policy key = m.policy key
  registrations : ∀ e < m.engineCount, (∀ g, target ≠ some ⟨e, g⟩) →
    m'.registrations e = m.registrations e

theorem Frame.made (h : Frame m a m') : ∃ made, m'.calls = m.calls ++ made ∧
    ∀ e call, (e, call) ∈ made → ∃ answer, a.logs (.called e call answer) = true := by
  obtain ⟨events, journal, hlogs⟩ := h.journal
  refine ⟨(events.filterMap Event.engineCall?).reverse, ?_, ?_⟩
  · simp only [Monitor.calls, Monitor.said, journal, List.filterMap_append, List.reverse_append]
  · intro e call hmade
    obtain ⟨event, hevent, hread⟩ := List.mem_filterMap.mp (List.mem_reverse.mp hmade)
    cases event with
    | called engine what answer =>
      cases hread
      exact ⟨answer, hlogs _ hevent⟩
    | _ => cases hread

theorem not_grouped_of_logs (enters : ∀ i, a ≠ .move (.enter i))
    (unregisters : ∀ id, a ≠ .move (.unregister id)) {e : Nat} {call : EngineCall}
    {answer : Option Status} (h : a.logs (.called e call answer) = true) : call.group? = none := by
  cases call with
  | history | snapshot => rfl
  | setPolicy | register | unregister =>
    cases a with
    | move mv =>
      cases mv with
      | enter i => exact absurd rfl (enters i)
      | unregister id => exact absurd rfl (unregisters id)
      | _ => cases h
    | _ => cases h

theorem enter?_made {i : Nat} (h : m.enter? i = some m') : ∃ r made, m.requests[i]? = some r ∧
    m'.calls = m.calls ++ made ∧
    ∀ e call, (e, call) ∈ made → e = r.key.engine ∧ call.group? = some r.key.group := by
  obtain ⟨r, waits, -, hm⟩ := enter?_cases h
  let n : Monitor := { m with requests := m.requests.eraseIdx i }
  have hend : Enrolled n r m' := hm ▸ enrol_cases n r
  have hmade (e : Nat) (call : EngineCall)
      (hcall : (e, call) ∈ [(r.key.engine, EngineCall.setPolicy r.key.group (n.policyFor r)),
        (r.key.engine, .register r.key.group (Condition.maskOf r.conditions) (n.lastId + 1))]) :
      e = r.key.engine ∧ call.group? = some r.key.group := by
    simp only [List.mem_cons, Prod.mk.injEq, List.not_mem_nil, or_false] at hcall
    obtain ⟨rfl, rfl⟩ | ⟨rfl, rfl⟩ := hcall <;> exact ⟨rfl, rfl⟩
  cases hend with
  | policyRefused refused =>
    refine ⟨r, _, waits, (fail_calls _ r _).1.trans (askPolicy_calls n r).1, fun e call hcall => ?_⟩
    exact hmade e call (List.mem_append_left [_] hcall)
  | registrationRefused o ho accepted refused =>
    subst ho
    let left : Monitor := { ((n.askPolicy r).2.askRegistration r).2 with registry := m.registry }
    exact ⟨r, _, waits, (fail_calls left r _).1.trans (askBoth_calls n r).1, hmade⟩
  | joined o ho accepted registered =>
    subst ho
    exact ⟨r, _, waits, (join_calls _ r).1.trans (askBoth_calls n r).1, hmade⟩

theorem unregister?_made {id : Nat} (h : m.unregister? id = some m') :
    ∃ s ∈ m.subscriptions, s.id = id ∧ ∃ mask,
      m'.calls = m.calls ++ [(s.key.engine, .unregister s.key.group mask)] := by
  obtain ⟨s, hs, hid, mask, -, -, rfl⟩ := unregister?_cases h
  refine ⟨s, hs, hid, mask, ?_⟩
  let done := (m.afterUnregister s.key mask).update id fun s => { s with phase := .released }
  have hcall : (m.afterUnregister s.key mask).calls =
      m.calls ++ [(s.key.engine, .unregister s.key.group mask)] :=
    said_call (fun _ _ => rfl) m _ (.unregister s.key.group mask) _ _
  have hreap : (done.reap s.key.engine).calls = done.calls := said_reap (fun _ _ => rfl) done _
  exact hreap.trans hcall

theorem act?_calls (n : m.Numbered) (h : m.act? a = some m') : ∃ made, m'.calls = m.calls ++ made ∧
    ∀ e call, (e, call) ∈ made → ∀ g, call.group? = some g → a.target? m = some ⟨e, g⟩ := by
  by_cases henter : ∃ i, a = .move (.enter i)
  · obtain ⟨i, rfl⟩ := henter
    obtain ⟨r, made, waits, calls, hmade⟩ := enter?_made h
    refine ⟨made, calls, fun e call hcall g hg => ?_⟩
    obtain ⟨rfl, hgroup⟩ := hmade e call hcall
    obtain rfl := Option.some.inj (hgroup.symm.trans hg)
    simp [Action.target?, waits]
  · by_cases hunregister : ∃ id, a = .move (.unregister id)
    · obtain ⟨id, rfl⟩ := hunregister
      obtain ⟨s, hs, rfl, mask, calls⟩ := unregister?_made h
      refine ⟨_, calls, fun e call hcall g hg => ?_⟩
      cases List.mem_singleton.mp hcall
      cases hg
      simp [Action.target?, n.subscription?_of_mem hs]
    · obtain ⟨made, calls, hlogs⟩ := (act?_frame h).made
      refine ⟨made, calls, fun e call hcall g hg => ?_⟩
      obtain ⟨answer, hlog⟩ := hlogs e call hcall
      have hnone := not_grouped_of_logs (fun i hi => henter ⟨i, hi⟩)
        (fun id hid => hunregister ⟨id, hid⟩) hlog
      simp [hnone] at hg

theorem group?_of_target (h : a.target? m ≠ some key) : a.group? m ≠ some key := by
  cases a with
  | move mv =>
    cases mv with
    | unregister id => simp [Action.group?]
    | _ => exact h
  | _ => simp [Action.group?]

theorem Reachable.confined (hr : Reachable m) (h : m.act? a = some m') :
    Confined m (a.target? m) m' := by
  have effect := hr.effect h
  refine ⟨act?_calls hr.numbered h,
    fun key other => effect.other_group hr.numbered (group?_of_target other), ?_, ?_⟩
  · intro key hk other
    cases effect with
    | quiet groups engines => exact engines.policy hk
    | replaced r waits free groups engines =>
      have hne : key ≠ r.key := by
        rintro rfl
        simp [Action.target?, waits] at other
      rw [engines.policies key hk, assign_of_ne _ _ hne]
    | joined r waits free groups engines =>
      have hne : key ≠ r.key := by
        rintro rfl
        simp [Action.target?, waits] at other
      rw [engines.policies key hk, assign_of_ne _ _ hne]
    | released s known waits free p outcome groups engines => exact engines.policy hk
    | cleared s known mask calls groups engines => exact engines.policies key hk
  · intro e he other
    cases effect with
    | quiet groups engines => exact engines.registrations he
    | replaced r waits free groups engines => exact engines.registrations e he
    | joined r waits free groups engines =>
      have hne : e ≠ r.key.engine := by
        rintro rfl
        exact other r.key.group (by simp [Action.target?, waits])
      rw [engines.registrations e he, assign_of_ne _ _ hne]
    | released s known waits free p outcome groups engines => exact engines.registrations he
    | cleared s known mask calls groups engines =>
      have hne : e ≠ s.key.engine := by
        rintro rfl
        exact other s.key.group (by simp [Action.target?, hr.numbered.subscription?_of_mem known])
      rw [engines.registrations e he, assign_of_ne _ _ hne]

end confined

section handover

structure Undisturbed (m m' : Monitor) : Prop where
  subscriptions : m'.subscriptions = m.subscriptions
  requests : m'.requests = m.requests
  registry : m'.registry = m.registry
  lastId : m'.lastId = m.lastId
  groups : m'.groups = m.groups
  engines : ∀ e, (m'.engines e).sim = (m.engines e).sim
  calls : m'.calls = m.calls

theorem reap_sim (m : Monitor) (e k : Nat) : ((m.reap e).engines k).sim = (m.engines k).sim := by
  by_cases hk : k = e
  · subst hk
    simp only [reap, adjust, noteNative, assign_self]
    split
    · rfl
    · exact Engine.giveBack_sim _
  · simp [reap, adjust, noteNative, hk]

theorem undisturbed_reapPrevious (m : Monitor) (active previous : Option Nat) :
    Undisturbed m ({ m with active }.reapPrevious previous) := by
  cases previous with
  | none => exact ⟨rfl, rfl, rfl, rfl, rfl, fun _ => rfl, rfl⟩
  | some e =>
    exact ⟨rfl, rfl, rfl, rfl, rfl, reap_sim { m with active } e,
      said_reap (fun _ _ => rfl) { m with active } e⟩

theorem active_reapPrevious (m : Monitor) (previous : Option Nat) :
    (m.reapPrevious previous).active = m.active := by
  cases previous <;> rfl

end handover

theorem resolve_inactive (h : m.active = none) :
    m.resolve none = .error (.engine "engine handle" .uninitialized) := by
  simp [resolve, h, resolve.uninitialized]

/-- In any run, whichever engines are activated and deactivated in it: a request, and the subscription
that it becomes, stays with the group that it named and with the engine that it named or that was active
when it began; an action for it calls only that engine about that group, and changes no other group and
no other engine's registrations; the counts of a group are those of its own subscriptions. Making another
engine active, or none, disturbs nothing and tells which one was active; and while none is, what does not
name an engine fails and calls none. -/
theorem subscriptions_keep_engine (h : run? {} as = some m) :
    (∀ r ∈ m.requests, Asked as r) ∧
    (∀ s ∈ m.subscriptions, Joined as s ∧ ∀ bs m', m.run? bs = some m' →
      ∃ s', m'.subscription? s.id = some s' ∧ s'.key = s.key) ∧
    (∀ a m', m.act? a = some m' → Confined m (a.target? m) m') ∧
    (∀ key c, (m.groups key).held c =
      if m.holders key c = 0 then none else some (m.holders key c)) ∧
    (∀ e, (m.activate e).1 = m.active ∧ (m.activate e).2.active = some e ∧
      Undisturbed m (m.activate e).2) ∧
    (m.deactivate.1 = m.active ∧ m.deactivate.2.active = none ∧ Undisturbed m m.deactivate.2) ∧
    (m.active = none →
      (∀ q script, m.collect none q script = (.error (.engine "engine handle" .uninitialized), m)) ∧
      (∀ entities fields flags script, m.snapshot none entities fields flags script =
        (.error (.engine "engine handle" .uninitialized), m)) ∧
      ∀ ticket w, w.engine = none → w.executor = true → m.ask ticket w =
        m.note (.subscribed ticket (.error (.engine "engine handle" .uninitialized)))) := by
  have hr : Reachable m := ⟨as, h⟩
  have counted := hr.counted
  refine ⟨requests_asked h, fun s hs => ⟨subscriptions_joined h s hs, fun bs m' hb => ?_⟩,
    fun a m' ha => hr.confined ha, fun key c => ?_,
    fun e => ⟨rfl, active_reapPrevious _ m.active, undisturbed_reapPrevious m (some e) m.active⟩,
    ⟨rfl, active_reapPrevious _ m.active, undisturbed_reapPrevious m none m.active⟩,
    fun hnone => ⟨fun q script => ?_, fun entities fields flags script => ?_,
      fun ticket w hw hruns => ?_⟩⟩
  · obtain ⟨s', hs', hid, hkey⟩ := hr.stays (P := fun t => t.key = s.key) hs rfl
      (fun _ _ _ _ _ _ step hkey => step.key_eq.trans hkey) hb
    exact ⟨s', hid ▸ (hr.run hb).numbered.subscription?_of_mem hs', hkey⟩
  · rw [(counted.noZeros key).held_eq, counted.count]
  · rw [collect, resolve_inactive hnone]
  · rw [snapshot, resolve_inactive hnone]
  · simp [ask, requestOf, hw, hruns, resolve_inactive hnone]

def handover : List Action :=
  [.addEngine, .addEngine, .activate 0, .addToken none, .addToken none,
    .ask 0 { group := 5, conditions := [.thermal], token := 0 }, .activate 1, .move (.enter 0),
    .ask 1 { group := 5, conditions := [.thermal], token := 1 }, .move (.enter 0),
    .move (.start 1), .cancelToken 0, .move (.leave 1), .move (.detach 1), .move (.release 1)]

theorem handover_keeps_engine : ∃ m m' s, run? {} handover = some m ∧ m.active = some 1 ∧
    m.act? (.move (.unregister 1)) = some m' ∧ m.subscription? 1 = some s ∧ Joined handover s ∧
    s.key = ⟨0, 5⟩ ∧ (∃ made, m'.calls = m.calls ++ made ∧
      ∀ e call, (e, call) ∈ made → ∀ g, call.group? = some g → s.key = ⟨e, g⟩) ∧
    m'.calls.length = m.calls.length + 1 ∧
    (m.groups ⟨0, 5⟩).held .thermal = none ∧ (m'.groups ⟨1, 5⟩).held .thermal = some 1 := by
  let m := (run? {} handover).get (by decide +kernel)
  let m' := (m.act? (.move (.unregister 1))).get (by decide +kernel)
  let s := (m.subscription? 1).get (by decide +kernel)
  have hm : run? {} handover = some m := by simp [m]
  have unregistered : m.act? (.move (.unregister 1)) = some m' := by simp [m']
  have known : m.subscription? 1 = some s := by simp [s]
  have active : m.active = some 1 := by decide +kernel
  have key : s.key = ⟨0, 5⟩ := by decide +kernel
  have once : m'.calls.length = m.calls.length + 1 := by decide +kernel
  obtain ⟨-, joined, confined, counts, -⟩ := subscriptions_keep_engine hm
  obtain ⟨⟨made, calls, hmade⟩, groups, -⟩ := confined _ m' unregistered
  have target : Action.target? m (.move (.unregister 1)) = some s.key := by
    simp [Action.target?, known]
  have gone : m.holders ⟨0, 5⟩ .thermal = 0 := by decide +kernel
  have kept : m.holders ⟨1, 5⟩ .thermal = 1 := by decide +kernel
  refine ⟨m, m', s, hm, active, unregistered, known, (joined s (mem_of_subscription? known).1).1, key,
    ⟨made, calls, fun e call hcall g hg => ?_⟩, once, by simp [counts, gone], ?_⟩
  · exact Option.some.inj (target.symm.trans (hmade e call hcall g hg))
  · rw [groups ⟨1, 5⟩ (by simp [target, key]), counts, kept]
    rfl

end Monitor

end GpuTelemetry
