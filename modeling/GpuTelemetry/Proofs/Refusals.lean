import GpuTelemetry.Proofs.Stages

namespace GpuTelemetry

def Event.refusal? : Event → Option (Nat × Failure)
  | .subscribed ticket (.error f) => some (ticket, f)
  | _ => none

theorem Condition.distinct_eq_nil {cs : List Condition} : distinct cs = [] ↔ cs = [] := by
  constructor
  · intro h
    refine List.eq_nil_iff_forall_not_mem.mpr fun c hc => ?_
    have hmem : c ∈ distinct cs := mem_distinct.mpr hc
    rw [h] at hmem
    cases hmem
  · rintro rfl
    rfl

namespace Monitor

variable {m m' : Monitor}

def refusals (m : Monitor) : List (Nat × Failure) := m.said Event.refusal?

structure SameRouter (m m' : Monitor) : Prop where
  groups : m'.groups = m.groups
  registry : m'.registry = m.registry
  subscriptions : m'.subscriptions = m.subscriptions
  firings : m'.firings = m.firings

theorem SameRouter.isLocked (h : SameRouter m m') (key : GroupKey) :
    m'.isLocked key = m.isLocked key := by
  simp only [Monitor.isLocked, h.subscriptions]

inductive Invalid (m : Monitor) (w : Wish) : Failure → Prop
  | runtime (missing : w.executor = false) : Invalid m w (.runtime "no executor")
  | engine (runs : w.executor = true) (missing : ∀ e, m.resolve w.engine ≠ .ok e) :
      Invalid m w (.engine "engine handle" .uninitialized)
  | conditions (e : Nat) (runs : w.executor = true) (resolved : m.resolve w.engine = .ok e)
      (empty : w.conditions = []) :
      Invalid m w (.invalidArgument "at least one policy condition is required")

theorem resolve_error {engine : Option Nat} {f : Failure} (h : m.resolve engine = .error f) :
    f = .engine "engine handle" .uninitialized := by
  unfold resolve at h
  split at h
  · split at h
    · cases h
    · exact (Except.error.inj h).symm
  · split at h
    · cases h
    · exact (Except.error.inj h).symm

theorem requestOf_invalid {ticket : Nat} {w : Wish} {f : Failure}
    (h : m.requestOf ticket w = .error f) : Invalid m w f := by
  unfold requestOf at h
  split at h
  · rename_i hnone
    cases h
    exact .runtime (by simpa using hnone)
  · rename_i hruns
    have runs : w.executor = true := by simpa using hruns
    split at h
    · rename_i g hg
      obtain rfl := Except.error.inj h
      rw [resolve_error hg]
      exact .engine runs fun e he => by rw [hg] at he; cases he
    · rename_i e he
      simp only at h
      split at h
      · rename_i hempty
        cases h
        exact .conditions e runs he (Condition.distinct_eq_nil.mp (List.isEmpty_iff.mp hempty))
      · cases h

/-- Where a subscribe call is refused, and what has been done by then. -/
inductive Refused (m : Monitor) : Action → Nat → Failure → Monitor → Prop
  | early {m' : Monitor} (ticket : Nat) (w : Wish) (f : Failure) (invalid : Invalid m w f)
      (journal : m'.journal = .subscribed ticket (.error f) :: m.journal)
      (calls : m'.calls = m.calls) (lastId : m'.lastId = m.lastId) :
      Refused m (.ask ticket w) ticket f m'
  | policy {m' : Monitor} (i : Nat) (r : Request) (waits : m.requests[i]? = some r)
      (refused : (m.askPolicy r).1.isOk = false) (free : m'.isLocked r.key = false)
      (calls : m'.calls = m.calls ++ [(r.key.engine, .setPolicy r.key.group (m.policyFor r))])
      (lastId : m'.lastId = m.lastId) :
      Refused m (.move (.enter i)) r.ticket
        (.ofStatus Native.Symbol.policySet.name (m.askPolicy r).1) m'
  | registration {m' : Monitor} (i : Nat) (r : Request) (waits : m.requests[i]? = some r)
      (accepted : (m.askPolicy r).1.isOk = true)
      (refused : ((m.askPolicy r).2.askRegistration r).1.isOk = false)
      (free : m'.isLocked r.key = false)
      (calls : m'.calls = m.calls ++ [(r.key.engine, .setPolicy r.key.group (m.policyFor r)),
        (r.key.engine, .register r.key.group (Condition.maskOf r.conditions) (m.lastId + 1))])
      (lastId : m'.lastId = m.lastId + 1) (silent : ∀ bs, m'.callsFor (m.lastId + 1) bs = []) :
      Refused m (.move (.enter i)) r.ticket
        (.ofStatus Native.Symbol.policyRegister.name ((m.askPolicy r).2.askRegistration r).1) m'

section calls

variable (m : Monitor) (r : Request)

theorem askPolicy_calls :
    (m.askPolicy r).2.calls =
      m.calls ++ [(r.key.engine, .setPolicy r.key.group (m.policyFor r))] ∧
    (m.askPolicy r).2.refusals = m.refusals :=
  ⟨said_call (fun _ _ => rfl) m _ (.setPolicy r.key.group (m.policyFor r)) _ _,
    (said_call (fun _ _ => rfl) m _ (.setPolicy r.key.group (m.policyFor r)) _ _).trans
      (List.append_nil _)⟩

theorem askRegistration_calls :
    (m.askRegistration r).2.calls = m.calls ++
      [(r.key.engine, .register r.key.group (Condition.maskOf r.conditions) (m.lastId + 1))] ∧
    (m.askRegistration r).2.refusals = m.refusals := by
  let entered : Monitor := { m with lastId := m.lastId + 1, registry := (m.lastId + 1) :: m.registry }
  exact ⟨said_call (fun _ _ => rfl) entered _ (.register r.key.group
      (Condition.maskOf r.conditions) (m.lastId + 1)) _ _,
    (said_call (fun _ _ => rfl) entered _ (.register r.key.group (Condition.maskOf r.conditions)
      (m.lastId + 1)) _ _).trans (List.append_nil _)⟩

theorem askBoth_calls :
    ((m.askPolicy r).2.askRegistration r).2.calls =
      m.calls ++ [(r.key.engine, .setPolicy r.key.group (m.policyFor r)),
        (r.key.engine, .register r.key.group (Condition.maskOf r.conditions) (m.lastId + 1))] ∧
    ((m.askPolicy r).2.askRegistration r).2.refusals = m.refusals := by
  obtain ⟨hpolicy, hsilent⟩ := askPolicy_calls m r
  obtain ⟨hregister, hsilent'⟩ := askRegistration_calls (m.askPolicy r).2 r
  refine ⟨?_, hsilent'.trans hsilent⟩
  rw [hregister, hpolicy, List.append_assoc]
  rfl

theorem fail_calls (f : Failure) :
    (m.fail r f).calls = m.calls ∧ (m.fail r f).refusals = m.refusals ++ [(r.ticket, f)] :=
  ⟨said_fail (fun _ _ => rfl) m r f rfl,
    (said_reap (fun _ _ => rfl) (m.note (.subscribed r.ticket (.error f))) _).trans (said_note m _)⟩

theorem join_calls : (m.join r).calls = m.calls ∧ (m.join r).refusals = m.refusals :=
  ⟨(said_note m (.subscribed r.ticket (.ok m.lastId))).trans (List.append_nil _),
    (said_note m (.subscribed r.ticket (.ok m.lastId))).trans (List.append_nil _)⟩

end calls

theorem task_known {mv : Move} {id : Nat} (h : m.move? mv = some m') (task : mv.task? = some id) :
    ∃ s ∈ m.subscriptions, s.id = id := by
  have known {ready : Subscription → Bool} {act : Subscription → Option Monitor}
      (h : m.turn? id ready act = some m') : ∃ s ∈ m.subscriptions, s.id = id := by
    obtain ⟨s, hs, hid, -⟩ := turn?_cases h
    exact ⟨s, hs, hid⟩
  cases mv with
  | enter | launch | callBack | report => cases task
  | _ =>
    cases task
    exact known h

theorem serves_known {a : Action} {id : Nat} (used : id ≤ m.lastId) (h : m.act? a = some m')
    (serves : a.serves m id = true) : ∃ s ∈ m.subscriptions, s.id = id := by
  cases a with
  | move mv =>
    have hmove : m.move? mv = some m' := h
    cases mv with
    | enter i =>
      simp only [Action.serves, beq_iff_eq] at serves
      omega
    | _ => exact task_known hmove (by simpa [Action.serves] using serves)
  | _ => cases serves

theorem Reachable.callsFor_of_unused {id : Nat} (h : Reachable m) (used : id ≤ m.lastId)
    (unknown : ∀ s ∈ m.subscriptions, s.id ≠ id) (bs : List Action) : m.callsFor id bs = [] := by
  induction bs generalizing m with
  | nil => rfl
  | cons a bs ih =>
    rw [callsFor]
    split
    · rename_i n ha
      have hquiet : a.serves m id = false := by
        rw [Bool.eq_false_iff]
        intro serves
        obtain ⟨s, hs, hid⟩ := serves_known used ha serves
        exact unknown s hs hid
      have hlast : m.lastId ≤ n.lastId := by
        cases act?_sets ha with
        | none _ _ last => omega
        | policy _ _ _ _ last => omega
        | both _ _ _ _ last => omega
      -- numbers only grow, so that no later subscription gets this one
      have hunknown (s' : Subscription) (hs' : s' ∈ n.subscriptions) : s'.id ≠ id := by
        obtain ⟨s, hs, acc, out, step, -, -⟩ | ⟨i, r, -, -, -, rfl⟩ := (h.evolves ha).origin hs'
        · rw [step.id_eq]
          exact unknown s hs
        · simp only [Request.subscription]
          omega
      rw [hquiet, ih (h.act ha) (Nat.le_trans used hlast) hunknown]
      rfl
    · rfl

theorem ask_kept (m : Monitor) (ticket : Nat) (w : Wish) :
    SameRouter m (m.ask ticket w) ∧ (m.ask ticket w).calls = m.calls ∧
      (m.ask ticket w).lastId = m.lastId := by
  unfold ask
  cases m.requestOf ticket w with
  | error f => exact ⟨⟨rfl, rfl, rfl, rfl⟩, (said_note m _).trans (List.append_nil _), rfl⟩
  | ok r => exact ⟨⟨rfl, rfl, rfl, rfl⟩, rfl, rfl⟩

theorem ask_refused {ticket : Nat} {w : Wish} (failed : (m.ask ticket w).refusals ≠ m.refusals) :
    ∃ f, (m.ask ticket w).refusals = m.refusals ++ [(ticket, f)] ∧
      SameRouter m (m.ask ticket w) ∧ Refused m (.ask ticket w) ticket f (m.ask ticket w) := by
  unfold ask at failed ⊢
  split at failed
  · rename_i f hf
    obtain ⟨same, calls, lastId⟩ := ask_kept m ticket w
    simp only [ask, hf] at same calls lastId
    exact ⟨f, said_note m _, same, .early ticket w f (requestOf_invalid hf) rfl calls lastId⟩
  · exact absurd rfl failed

theorem enter?_refused {i : Nat} (hr : Reachable m) (h : m.act? (.move (.enter i)) = some m')
    (failed : m'.refusals ≠ m.refusals) :
    ∃ ticket f, m'.refusals = m.refusals ++ [(ticket, f)] ∧ SameRouter m m' ∧
      Refused m (.move (.enter i)) ticket f m' := by
  have hreach := hr.act h
  obtain ⟨r, waits, free, hm⟩ := enter?_cases h
  let n : Monitor := { m with requests := m.requests.eraseIdx i }
  have hend : Enrolled n r m' := hm ▸ enrol_cases n r
  cases hend with
  | policyRefused refused =>
    obtain ⟨hpolicy, hsilent⟩ := askPolicy_calls n r
    obtain ⟨hcalls, hnoted⟩ := fail_calls (n.askPolicy r).2 r
      (.ofStatus Native.Symbol.policySet.name (m.askPolicy r).1)
    exact ⟨r.ticket, _, hnoted.trans (congrArg (· ++ _) hsilent), ⟨rfl, rfl, rfl, rfl⟩,
      .policy i r waits refused free (hcalls.trans hpolicy) rfl⟩
  | registrationRefused o ho accepted refused =>
    subst ho
    obtain ⟨hboth, hsilent⟩ := askBoth_calls n r
    obtain ⟨hcalls, hnoted⟩ :=
      fail_calls { ((n.askPolicy r).2.askRegistration r).2 with registry := m.registry } r
        (.ofStatus Native.Symbol.policyRegister.name ((m.askPolicy r).2.askRegistration r).1)
    refine ⟨r.ticket, _, hnoted.trans (congrArg (· ++ _) hsilent), ⟨rfl, rfl, rfl, rfl⟩,
      .registration i r waits accepted refused free (hcalls.trans hboth) rfl ?_⟩
    refine hreach.callsFor_of_unused (Nat.le_refl _) fun s hs => ?_
    exact Nat.ne_of_lt (Nat.lt_succ_of_le (hr.numbered.le s hs))
  | joined o ho accepted registered =>
    subst ho
    exact absurd ((join_calls _ r).2.trans (askBoth_calls n r).2) failed

theorem not_refusal_of_logs {a : Action} (asks : ∀ ticket w, a ≠ .ask ticket w)
    (enters : ∀ i, a ≠ .move (.enter i)) {e : Event} (h : a.logs e = true) : e.refusal? = none := by
  cases e with
  | subscribed ticket outcome =>
    cases a with
    | ask ticket w => exact absurd rfl (asks ticket w)
    | move mv =>
      cases mv with
      | enter i => exact absurd rfl (enters i)
      | _ => cases h
    | _ => cases h
  | _ => rfl

/-- Whatever state a monitor is in and whoever else is at work: a call that only waits has changed
nothing, and an action by which a subscribe call returns an error leaves the router what it was. An
invalid call has called no engine and taken no number; one whose policy is refused has set it and made no
other call; one whose registration is refused has used up one number, for which nothing is called then
or later. -/
theorem refused_subscribe_leaves_router (h : Reachable m) :
    (∀ ticket w m', m.act? (.ask ticket w) = some m' →
      SameRouter m m' ∧ m'.calls = m.calls ∧ m'.lastId = m.lastId) ∧
    ∀ a m', m.act? a = some m' → m'.refusals ≠ m.refusals →
      ∃ ticket f, m'.refusals = m.refusals ++ [(ticket, f)] ∧ SameRouter m m' ∧
        (∀ key, m'.isLocked key = m.isLocked key) ∧ Refused m a ticket f m' := by
  refine ⟨fun ticket w m' ha => ?_, fun a m' ha failed => ?_⟩
  · cases ha
    exact ask_kept m ticket w
  · by_cases hask : ∃ ticket w, a = .ask ticket w
    · obtain ⟨ticket, w, rfl⟩ := hask
      cases ha
      obtain ⟨f, hf, same, refused⟩ := ask_refused failed
      exact ⟨ticket, f, hf, same, same.isLocked, refused⟩
    · by_cases henter : ∃ i, a = .move (.enter i)
      · obtain ⟨i, rfl⟩ := henter
        obtain ⟨ticket, f, hf, same, refused⟩ := enter?_refused h ha failed
        exact ⟨ticket, f, hf, same, same.isLocked, refused⟩
      · have hsilent : m'.refusals = m.refusals := (act?_frame ha).said fun e he =>
          not_refusal_of_logs (fun t w hw => hask ⟨t, w, hw⟩) (fun i hi => henter ⟨i, hi⟩) he
        exact absurd hsilent failed

def turnedAway : List Action :=
  [.addEngine, .activate 0, .addToken none,
    .ask 0 { group := 5, conditions := [.thermal], thresholds := { temperature := 90 }, token := 0 },
    .move (.enter 0), .fire 0 0 (.report .thermal 0 95 7) 1 false, .move (.launch 0),
    .move (.callBack 0), .set 0 (.registerStatus .notSupported),
    .ask 1 { group := 5, conditions := [.thermal, .xid], thresholds := { temperature := 70 }, token := 0 }]

theorem turnedAway_keeps_router : ∃ m m', run? {} turnedAway = some m ∧
    m.act? (.move (.enter 0)) = some m' ∧
    m'.refusals = [(1, .engine "dcgmPolicyRegister_v2" .notSupported)] ∧ SameRouter m m' ∧
    (∃ s ∈ m'.subscriptions, s.inSlots = 1) ∧ m'.isLocked ⟨0, 5⟩ = false ∧
    m'.lastId = m.lastId + 1 := by
  let m := (run? {} turnedAway).get (by decide +kernel)
  let m' := (m.act? (.move (.enter 0))).get (by decide +kernel)
  have hm : run? {} turnedAway = some m := by simp [m]
  have entered : m.act? (.move (.enter 0)) = some m' := by simp [m']
  have before : m.refusals = [] := by decide +kernel
  have after : m'.refusals = [(1, .engine "dcgmPolicyRegister_v2" .notSupported)] := by decide +kernel
  have failed : m'.refusals ≠ m.refusals := by simp [before, after]
  have buffered : ∃ s ∈ m.subscriptions, s.inSlots = 1 := by decide +kernel
  have free : m.isLocked ⟨0, 5⟩ = false := by decide +kernel
  obtain ⟨ticket, f, -, same, locks, refused⟩ :=
    (refused_subscribe_leaves_router ⟨turnedAway, hm⟩).2 _ m' entered failed
  refine ⟨m, m', hm, entered, after, same, ?_, (locks _).trans free, ?_⟩
  · rw [same.subscriptions]
    exact buffered
  · cases refused with
    | policy i r waits refused free calls lastId =>
      have used : m'.lastId = m.lastId + 1 := by decide +kernel
      omega
    | registration i r waits accepted refused free calls lastId silent => exact lastId

end Monitor

end GpuTelemetry
