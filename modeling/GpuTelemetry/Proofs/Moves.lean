import GpuTelemetry.Monitor.Progress
import GpuTelemetry.Proofs.EngineCalls

namespace GpuTelemetry

def Firing.upcoming (f : Firing) : Response :=
  if f.launched = 0 then f.response else f.response.raised 1

theorem Firing.upcoming_condition (f : Firing) : f.upcoming.condition = f.response.condition := by
  unfold upcoming
  split <;> rfl

def Firing.launch (f : Firing) (targets : List Registration) : Firing :=
  { f with
    response := f.upcoming, targets, launched := f.launched + 1
    callbacks := f.callbacks + targets.length }

namespace Monitor

variable {m m' : Monitor} {id i : Nat}

theorem mem_of_subscription? {s : Subscription} (h : m.subscription? id = some s) :
    s ∈ m.subscriptions ∧ s.id = id := by
  refine ⟨List.mem_of_find?_eq_some h, ?_⟩
  simpa using List.find?_some h

theorem turn?_cases {ready : Subscription → Bool} {act : Subscription → Option Monitor}
    (h : m.turn? id ready act = some m') :
    ∃ s ∈ m.subscriptions, s.id = id ∧ ready s = true ∧ act s = some m' := by
  unfold turn? at h
  split at h
  · rename_i s hs
    obtain ⟨hm, hid⟩ := mem_of_subscription? hs
    split at h
    · rename_i hr
      exact ⟨s, hm, hid, hr, h⟩
    · cases h
  · cases h

theorem start?_cases (h : m.start? id = some m') :
    ∃ s ∈ m.subscriptions, s.id = id ∧ s.phase = .registered ∧
      m' = m.update id fun s => { s with phase := .streaming } := by
  obtain ⟨s, hs, hid, hr, ha⟩ := turn?_cases h
  exact ⟨s, hs, hid, by simpa using hr, (Option.some.inj ha).symm⟩

theorem take?_cases {c : Condition} (h : m.take? id c = some m') :
    ∃ s ∈ m.subscriptions, s.id = id ∧ ∃ v rest, s.slots c = v :: rest ∧ s.phase = .streaming ∧
      s.hand = none ∧
      m' = m.update id fun s => { s with hand := some v, slots := assign s.slots c rest } := by
  obtain ⟨s, hs, hid, hr, ha⟩ := turn?_cases h
  obtain ⟨hp, hh⟩ : s.phase = .streaming ∧ s.hand = none := by simpa using hr
  split at ha
  · rename_i v rest hv
    exact ⟨s, hs, hid, v, rest, hv, hp, hh, (Option.some.inj ha).symm⟩
  · cases ha

theorem send?_cases (h : m.send? id = some m') :
    ∃ s ∈ m.subscriptions, s.id = id ∧ ∃ v, s.hand = some v ∧ s.phase = .streaming ∧
      s.output.length < Limits.outputCapacity ∧
      m' = m.update id fun s => { s with hand := none, output := s.output ++ [v] } := by
  obtain ⟨s, hs, hid, hr, ha⟩ := turn?_cases h
  obtain ⟨hp, hl⟩ : s.phase = .streaming ∧ s.output.length < Limits.outputCapacity := by
    simpa using hr
  split at ha
  · rename_i v hv
    exact ⟨s, hs, hid, v, hv, hp, hl, (Option.some.inj ha).symm⟩
  · cases ha

theorem leave?_cases (h : m.leave? id = some m') :
    ∃ s ∈ m.subscriptions, s.id = id ∧ s.phase = .streaming ∧ m.stops s = true ∧
      m' = m.update id fun s => { s with phase := .leaving, hand := none } := by
  obtain ⟨s, hs, hid, hr, ha⟩ := turn?_cases h
  obtain ⟨hp, hstop⟩ : s.phase = .streaming ∧ m.stops s = true := by simpa using hr
  exact ⟨s, hs, hid, hp, hstop, (Option.some.inj ha).symm⟩

theorem detach?_cases (h : m.detach? id = some m') :
    ∃ s ∈ m.subscriptions, s.id = id ∧ s.phase = .leaving ∧
      m' = { m with registry := m.registry.erase id }.update id fun s =>
        { s with phase := .waiting, slots := fun _ => [] } := by
  obtain ⟨s, hs, hid, hr, ha⟩ := turn?_cases h
  exact ⟨s, hs, hid, by simpa using hr, (Option.some.inj ha).symm⟩

def afterRelease (m : Monitor) (key : GroupKey) (cs : List Condition) : Monitor :=
  { m with groups := assign m.groups key ((m.groups key).release cs).1 }

theorem release?_cases (h : m.release? id = some m') :
    ∃ s ∈ m.subscriptions, s.id = id ∧ s.phase = .waiting ∧ m.isLocked s.key = false ∧
      ∃ mask, ((m.groups s.key).release s.conditions).2 = mask ∧
        ((mask = 0 ∧ m' = ((m.afterRelease s.key s.conditions).update id fun s =>
            { s with phase := .released }).reap s.key.engine) ∨
          (mask ≠ 0 ∧ m' = (m.afterRelease s.key s.conditions).update id fun s =>
            { s with phase := .calling mask })) := by
  obtain ⟨s, hs, hid, hr, ha⟩ := turn?_cases h
  obtain ⟨hp, hl⟩ : s.phase = .waiting ∧ m.isLocked s.key = false := by simpa using hr
  refine ⟨s, hs, hid, hp, hl, _, rfl, ?_⟩
  simp only at ha
  split at ha
  · rename_i hz
    exact .inl ⟨hz, (Option.some.inj ha).symm⟩
  · rename_i hz
    exact .inr ⟨hz, (Option.some.inj ha).symm⟩

def afterUnregister (m : Monitor) (key : GroupKey) (mask : UInt32) : Monitor :=
  (m.call key.engine (.unregister key.group mask) (fun answer => answer)
    (·.unregister key.group mask)).2

theorem unregister?_cases (h : m.unregister? id = some m') :
    ∃ s ∈ m.subscriptions, s.id = id ∧ ∃ mask, s.phase = .calling mask ∧
      (m.engines s.key.engine).held = false ∧
      m' = ((m.afterUnregister s.key mask).update id fun s =>
        { s with phase := .released }).reap s.key.engine := by
  obtain ⟨s, hs, hid, hr, ha⟩ := turn?_cases h
  split at ha
  · rename_i mask hp
    split at ha
    · cases ha
    · rename_i hh
      exact ⟨s, hs, hid, mask, hp, by simpa using hh, (Option.some.inj ha).symm⟩
  · cases ha

theorem close?_cases (h : m.close? id = some m') :
    ∃ s ∈ m.subscriptions, s.id = id ∧ s.phase = .released ∧
      m' = m.update id fun s => { s with phase := .closed } := by
  obtain ⟨s, hs, hid, hr, ha⟩ := turn?_cases h
  exact ⟨s, hs, hid, by simpa using hr, (Option.some.inj ha).symm⟩

theorem finish?_cases (h : m.finish? id = some m') :
    ∃ s ∈ m.subscriptions, s.id = id ∧ s.phase = .closed ∧
      m' = m.update id fun s => { s with phase := .finished } := by
  obtain ⟨s, hs, hid, hr, ha⟩ := turn?_cases h
  exact ⟨s, hs, hid, by simpa using hr, (Option.some.inj ha).symm⟩

inductive Enrolled (m : Monitor) (r : Request) : Monitor → Prop
  | policyRefused (refused : (m.askPolicy r).1.isOk = false) :
      Enrolled m r ((m.askPolicy r).2.fail r
        (.ofStatus Native.Symbol.policySet.name (m.askPolicy r).1))
  | registrationRefused (n : Monitor) (hn : n = (m.askPolicy r).2)
      (accepted : (m.askPolicy r).1.isOk = true)
      (refused : (n.askRegistration r).1.isOk = false) :
      Enrolled m r ({ (n.askRegistration r).2 with registry := m.registry }.fail r
        (.ofStatus Native.Symbol.policyRegister.name (n.askRegistration r).1))
  | joined (n : Monitor) (hn : n = (m.askPolicy r).2)
      (accepted : (m.askPolicy r).1.isOk = true)
      (registered : (n.askRegistration r).1.isOk = true) :
      Enrolled m r ((n.askRegistration r).2.join r)

theorem enrol_cases (m : Monitor) (r : Request) : Enrolled m r (m.enrol r) := by
  unfold enrol
  obtain ⟨hok, hc⟩ | ⟨hbad, hc⟩ := (m.askPolicy r).1.check_cases Native.Symbol.policySet.name
  · simp only [hc, enlist]
    obtain ⟨hok', hc'⟩ | ⟨hbad', hc'⟩ :=
      ((m.askPolicy r).2.askRegistration r).1.check_cases Native.Symbol.policyRegister.name
    · simp only [hc']
      exact .joined _ rfl hok hok'
    · simp only [hc']
      have hreg : ((m.askPolicy r).2.askRegistration r).2.registry.erase
          ((m.askPolicy r).2.askRegistration r).2.lastId = m.registry := List.erase_cons_head ..
      rw [hreg]
      exact .registrationRefused _ rfl hok hbad'
  · simp only [hc]
    exact .policyRefused hbad

theorem enter?_cases (h : m.enter? i = some m') :
    ∃ r, m.requests[i]? = some r ∧ m.isLocked r.key = false ∧
      m' = { m with requests := m.requests.eraseIdx i }.enrol r := by
  unfold enter? at h
  split at h
  · rename_i r hr
    split at h
    · cases h
    · rename_i hl
      exact ⟨r, hr, by simpa using hl, (Option.some.inj h).symm⟩
  · cases h

theorem receiver?_cases {c : Condition} {s : Subscription} (h : m.receiver? id c = some s) :
    s ∈ m.subscriptions ∧ s.id = id ∧ id ∈ m.registry ∧ c ∈ s.conditions := by
  unfold receiver? at h
  split at h
  · rename_i hreg
    split at h
    · rename_i t ht
      split at h
      · rename_i hc
        obtain rfl := Option.some.inj h
        exact ⟨(mem_of_subscription? ht).1, (mem_of_subscription? ht).2, hreg, hc⟩
      · cases h
    · cases h
  · cases h

inductive Delivered (m : Monitor) (f : Firing) (target : Registration) : Monitor → Prop
  | recorded : Delivered m f target (m.note (.recorded f.response target.user))
  | ignored : Delivered m f target m
  | accepted (s : Subscription) (v : Violation) (known : s ∈ m.subscriptions)
      (addressed : s.id = target.user) (attached : s.id ∈ m.registry)
      (decoded : Violation.ofResponse? f.response = some v) (watched : v.condition ∈ s.conditions)
      (room : (s.slots v.condition).length < Limits.slotCapacity) :
      Delivered m f target (m.accept s.id v)

theorem Delivered.firings {f : Firing} {target : Registration} (h : Delivered m f target m') :
    m'.firings = m.firings := by
  cases h <;> rfl

theorem deliver?_cases {f : Firing} {target : Registration} (h : m.deliver? f target = some m') :
    Delivered m f target m' := by
  unfold deliver? at h
  split at h
  · cases h
    exact .recorded
  · split at h
    · cases h
      exact .ignored
    · rename_i v hv
      split at h
      · cases h
        exact .ignored
      · rename_i s hs
        obtain ⟨hm, hid, hreg, hc⟩ := receiver?_cases hs
        rw [← hid] at hreg
        split at h
        · cases h
          exact .ignored
        · split at h
          · rename_i hroom
            rw [← hid] at h
            cases h
            exact .accepted s v hm hid hreg hv hc hroom
          · cases h

theorem callBack?_next (h : m.callBack? i = some m') :
    ∃ f target rest n, m.firings[i]? = some f ∧ f.targets = target :: rest ∧
      m.deliver? f target = some n ∧
      m' = { n.note (.callback f.engine target) with
        firings := n.firings.eraseIdx i ++ [{ f with targets := rest }] } := by
  unfold callBack? at h
  split at h
  · rename_i f hf
    split at h
    · rename_i target rest ht
      obtain ⟨n, hn, rfl⟩ := Option.map_eq_some_iff.mp h
      exact ⟨f, target, rest, n, hf, ht, hn, rfl⟩
    · cases h
  · cases h

theorem callBack?_cases (h : m.callBack? i = some m') :
    ∃ f target rest n, m.firings[i]? = some f ∧ f.targets = target :: rest ∧
      Delivered m f target n ∧
      m' = { n.note (.callback f.engine target) with
        firings := n.firings.eraseIdx i ++ [{ f with targets := rest }] } := by
  obtain ⟨f, target, rest, n, hf, turn, delivered, hm⟩ := callBack?_next h
  exact ⟨f, target, rest, n, hf, turn, deliver?_cases delivered, hm⟩

theorem launch?_next (h : m.launch? i = some m') :
    ∃ f, m.firings[i]? = some f ∧ f.targets = [] ∧ f.launched < f.total ∧
      m' = { m with firings :=
        m.firings.set i (f.launch ((m.engines f.engine).sim.targets f.upcoming.condition)) } := by
  unfold launch? at h
  split at h
  · rename_i f hf
    split at h
    · rename_i hr
      obtain ⟨idle, left⟩ : f.targets = [] ∧ f.launched < f.total := by simpa using hr
      exact ⟨f, hf, idle, left, (Option.some.inj h).symm⟩
    · cases h
  · cases h

theorem launch?_cases (h : m.launch? i = some m') :
    ∃ f, m.firings[i]? = some f ∧ f.targets = [] ∧ f.launched < f.total ∧
      ∃ firings, m' = { m with firings } := by
  obtain ⟨f, hf, idle, left, hm⟩ := launch?_next h
  exact ⟨f, hf, idle, left, _, hm⟩

theorem report?_cases (h : m.report? i = some m') :
    ∃ f, m.firings[i]? = some f ∧ f.targets = [] ∧ f.launched = f.total ∧
      m' = { m with firings := m.firings.eraseIdx i }.note
        (.fired f.ticket f.total f.callbacks) := by
  unfold report? at h
  split at h
  · rename_i f hf
    split at h
    · rename_i hr
      obtain ⟨ht, hl⟩ : f.targets = [] ∧ f.launched = f.total := by simpa using hr
      exact ⟨f, hf, ht, hl, (Option.some.inj h).symm⟩
    · cases h
  · cases h

end Monitor

end GpuTelemetry
