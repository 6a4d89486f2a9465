import GpuTelemetry.Proofs.Buffers
import GpuTelemetry.Proofs.Threads

/-!
Moves come to an end. The work that is left is a bound on the moves that can still be made: a request may
become a subscription, which goes through its phases; an occurrence is taken and sent on; and a thread
launches what it has to report, calls back and ends.
-/

namespace GpuTelemetry

open scoped List

namespace Monitor

variable {m m' : Monitor} {mv : Move}

theorem work_eq (m : Monitor) : m.work =
    8 * m.requests.length + (m.subscriptions.map taskWork).sum +
      (m.firings.map m.firingWork).sum := by
  simp [work, List.sum_eq_foldr, List.foldr_map]

theorem reach_eq (m : Monitor) (e : Nat) :
    m.reach e = (m.registrations e).length + m.requests.length := rfl

section sums

theorem firingWork_le {f : Firing} (h : m'.reach f.engine ≤ m.reach f.engine) :
    m'.firingWork f ≤ m.firingWork f := by
  have := Nat.mul_le_mul_left (f.total - f.launched) (Nat.add_le_add_left (Nat.mul_le_mul_left 3 h) 1)
  simp only [firingWork]
  omega

theorem sum_firingWork_le (h : ∀ e, m'.reach e ≤ m.reach e) (firings : List Firing) :
    (firings.map m'.firingWork).sum ≤ (firings.map m.firingWork).sum :=
  List.sum_le_sum fun f _ => firingWork_le (h f.engine)

theorem sum_firingWork_of_perm {f : Firing} {others firings : List Firing}
    (h : firings ~ f :: others) :
    (firings.map m.firingWork).sum = m.firingWork f + (others.map m.firingWork).sum := by
  rw [(h.map _).sum_eq, List.map_cons, List.sum_cons]

theorem sum_update {l : List Subscription} (n : (l.map (·.id)).Nodup) {s : Subscription} (hs : s ∈ l)
    (f : Subscription → Subscription) (w : Subscription → Nat) :
    ((l.map fun t => if t.id = s.id then f t else t).map w).sum + w s = (l.map w).sum + w (f s) := by
  obtain ⟨others, before, after⟩ := update_perm n hs f
  rw [(after.map w).sum_eq, (before.map w).sum_eq]
  simp only [List.map_cons, List.sum_cons]
  omega

end sums

theorem move?_reach_le (h : m.move? mv = some m') (e : Nat)
    (requests : m'.requests.length ≤ m.requests.length)
    (enters : m'.subscriptions.length ≠ m.subscriptions.length →
      m'.requests.length < m.requests.length) : m'.reach e ≤ m.reach e := by
  rw [reach_eq, reach_eq]
  cases move?_registers h e with
  | same registrations =>
    rw [registrations]
    omega
  | joined r engine registrations list =>
    have hlt := enters (by simp [list])
    rw [registrations, List.length_append, List.length_singleton]
    omega
  | cleared group mask registrations =>
    have hle : (remaining (m.registrations e) group mask).length ≤ (m.registrations e).length := by
      simpa [remaining] using List.length_filter_le (fun g : Registration => g.mask != 0)
        ((m.registrations e).map (·.cleared group mask))
    rw [registrations]
    omega

section tasks

variable {s : Subscription}

theorem work_lt_of_update (n : m.Numbered) (hs : s ∈ m.subscriptions) (h : m.move? mv = some m')
    (f : Subscription → Subscription) (list : m'.subscriptions = (m.update s.id f).subscriptions)
    (requests : m'.requests = m.requests) (firings : m'.firings = m.firings)
    (less : taskWork (f s) < taskWork s) : m'.work < m.work := by
  have hreach (e : Nat) : m'.reach e ≤ m.reach e :=
    move?_reach_le h e (by rw [requests]) fun hne => absurd (by simp [list, update]) hne
  have hsum := sum_update n.nodup hs f taskWork
  have hthreads := sum_firingWork_le hreach m.firings
  rw [work_eq, work_eq, requests, firings, list]
  simp only [update]
  omega

theorem taskWork_take {c : Condition} {v : Violation} {rest : List Violation} (free : s.hand = none)
    (ready : s.slots c = v :: rest) :
    taskWork { s with hand := some v, slots := assign s.slots c rest } < taskWork s := by
  have hslots := s.inSlots_assign c rest
  have hsame : { s with hand := some v, slots := assign s.slots c rest }.inSlots =
      { s with slots := assign s.slots c rest }.inSlots := rfl
  have hempty : s.hand.toList.length = 0 := by simp [free]
  rw [ready, List.length_cons] at hslots
  simp only [taskWork, hsame, Option.toList_some, List.length_singleton]
  omega

theorem taskWork_accept (v : Violation) :
    taskWork { s with slots := assign s.slots v.condition (s.slots v.condition ++ [v]) } =
      taskWork s + 2 := by
  have hslots := s.inSlots_assign v.condition (s.slots v.condition ++ [v])
  rw [List.length_append, List.length_singleton] at hslots
  simp only [taskWork]
  omega

end tasks

section threads

theorem work_of_threads (subscriptions : m'.subscriptions = m.subscriptions)
    (requests : m'.requests = m.requests) (engines : m'.engines = m.engines)
    (less : (m'.firings.map m.firingWork).sum < (m.firings.map m.firingWork).sum) :
    m'.work < m.work := by
  have hreach (e : Nat) : m'.reach e ≤ m.reach e := by simp [reach, engines, requests]
  have hle := sum_firingWork_le hreach m'.firings
  rw [work_eq, work_eq, subscriptions, requests]
  omega

theorem firingWork_launch {f : Firing} (idle : f.targets = []) (left : f.launched < f.total) :
    m.firingWork (f.launch ((m.engines f.engine).sim.targets f.upcoming.condition)) <
      m.firingWork f := by
  have htargets : ((m.engines f.engine).sim.targets f.upcoming.condition).length ≤
      m.reach f.engine :=
    Nat.le_trans (List.length_filter_le _ _) (Nat.le_add_right _ _)
  obtain ⟨k, hk⟩ : ∃ k, f.total - f.launched = k + 1 := ⟨f.total - f.launched - 1, by omega⟩
  have hleft : f.total - (f.launched + 1) = k := by omega
  simp only [firingWork, Firing.launch, idle, hk, hleft, Nat.succ_mul, List.length_nil]
  omega

theorem firingWork_call {f : Firing} {target : Registration} {rest : List Registration}
    (turn : f.targets = target :: rest) :
    m.firingWork { f with targets := rest } + 3 = m.firingWork f := by
  simp only [firingWork, turn, List.length_cons]
  omega

end threads

theorem callBack?_work {i : Nat} (n : m.Numbered) (h : m.callBack? i = some m') :
    m'.work < m.work := by
  cases act?_threads (a := .move (.callBack i)) h with
  | kept quiet => cases quiet
  | began f starts => cases starts
  | called f others target rest o before turn delivered firings after =>
    have hcall := firingWork_call (m := m) turn
    have hbefore := sum_firingWork_of_perm (m := m) before
    have hafter := sum_firingWork_of_perm (m := m) firings
    have hthreads : (m'.firings.map m.firingWork).sum + 3 = (m.firings.map m.firingWork).sum := by
      omega
    cases deliver?_cases delivered with
    | recorded | ignored =>
      rw [after]
      exact work_of_threads rfl rfl rfl (by simp only; omega)
    | accepted s v known addressed attached decoded watched room =>
      have hsum := sum_update n.nodup known (fun s =>
        { s with slots := assign s.slots v.condition (s.slots v.condition ++ [v]) }) taskWork
      have hgain := taskWork_accept (s := s) v
      have hsame : m'.firingWork = m.firingWork := by rw [after]; rfl
      rw [work_eq, work_eq, hsame]
      have hlist : m'.subscriptions = (m.update s.id fun s =>
          { s with slots := assign s.slots v.condition (s.slots v.condition ++ [v]) }).subscriptions := by
        rw [after]
        rfl
      have hrequests : m'.requests = m.requests := by rw [after]; rfl
      rw [hlist, hrequests]
      simp only [update]
      omega

theorem launch?_work {i : Nat} (h : m.launch? i = some m') : m'.work < m.work := by
  cases act?_threads (a := .move (.launch i)) h with
  | kept quiet => cases quiet
  | began f starts => cases starts
  | launched f others before idle left firings after =>
    have hless := firingWork_launch (m := m) idle left
    have hbefore := sum_firingWork_of_perm (m := m) before
    have hafter := sum_firingWork_of_perm (m := m) firings
    rw [after]
    exact work_of_threads rfl rfl rfl (by simp only; omega)

theorem report?_work {i : Nat} (h : m.report? i = some m') : m'.work < m.work := by
  cases act?_threads (a := .move (.report i)) h with
  | kept quiet => cases quiet
  | began f starts => cases starts
  | reported f others before idle done firings after =>
    have hpos : 0 < m.firingWork f := by
      simp only [firingWork]
      omega
    have hbefore := sum_firingWork_of_perm (m := m) before
    have hafter := (firings.map m.firingWork).sum_eq
    rw [after]
    exact work_of_threads rfl rfl rfl (by simp only; omega)

theorem enrol_requests (m : Monitor) (r : Request) : (m.enrol r).requests = m.requests := by
  have hend := enrol_cases m r
  generalize m.enrol r = m' at hend
  cases hend with
  | policyRefused refused => rfl
  | registrationRefused o ho accepted refused => rw [ho]; rfl
  | joined o ho accepted registered => rw [ho]; rfl

theorem enrol_subscriptions (m : Monitor) (r : Request) :
    (m.enrol r).subscriptions = m.subscriptions ∨ (m.enrol r).subscriptions =
      m.subscriptions ++ [r.subscription (m.lastId + 1) (m.scopeOf r.token)] := by
  have hend := enrol_cases m r
  generalize m.enrol r = m' at hend
  cases hend with
  | policyRefused refused => exact .inl rfl
  | registrationRefused o ho accepted refused => exact .inl (by rw [ho]; rfl)
  | joined o ho accepted registered => exact .inr (by rw [ho]; rfl)

theorem enter?_work {i : Nat} (h : m.enter? i = some m') : m'.work < m.work := by
  obtain ⟨r, hr, -, hm⟩ := enter?_cases h
  have hlt := (List.getElem?_eq_some_iff.mp hr).1
  have hrequests : m'.requests.length + 1 = m.requests.length := by
    rw [hm, enrol_requests]
    simp only [List.length_eraseIdx_of_lt hlt]
    omega
  have hmove : m.move? (.enter i) = some m' := h
  have hfirings : m'.firings = m.firings := (move?_frame hmove).firings rfl
  have hreach (e : Nat) : m'.reach e ≤ m.reach e :=
    move?_reach_le hmove e (by omega) fun _ => by omega
  have hthreads := sum_firingWork_le hreach m.firings
  rw [work_eq, work_eq, hfirings]
  have hlist : m'.subscriptions = m.subscriptions ∨ m'.subscriptions =
      m.subscriptions ++ [r.subscription (m.lastId + 1) (m.scopeOf r.token)] :=
    hm ▸ enrol_subscriptions { m with requests := m.requests.eraseIdx i } r
  obtain hlist | hlist := hlist
  · rw [hlist]
    omega
  · -- the request has become a subscription, with all its phases before it
    have hnew : taskWork (r.subscription (m.lastId + 1) (m.scopeOf r.token)) = 7 := rfl
    have hsum : (m'.subscriptions.map taskWork).sum = (m.subscriptions.map taskWork).sum + 7 := by
      rw [hlist, List.map_append, List.sum_append]
      simpa using hnew
    omega

theorem move?_work (n : m.Numbered) (h : m.move? mv = some m') : m'.work < m.work := by
  have shorter {s : Subscription} {p : Phase} (less : p.remaining < s.phase.remaining) :
      taskWork { s with phase := p } < taskWork s := by
    have hsame : ({ s with phase := p } : Subscription).inSlots = s.inSlots := rfl
    simp only [taskWork, hsame]
    omega
  cases mv with
  | enter i => exact enter?_work h
  | launch i => exact launch?_work h
  | callBack i => exact callBack?_work n h
  | report i => exact report?_work h
  | start id =>
    obtain ⟨s, hs, rfl, hp, rfl⟩ := start?_cases h
    exact work_lt_of_update n hs h _ rfl rfl rfl (shorter (by rw [hp]; decide))
  | take id c =>
    obtain ⟨s, hs, rfl, v, rest, hv, -, hh, rfl⟩ := take?_cases h
    exact work_lt_of_update n hs h _ rfl rfl rfl (taskWork_take hh hv)
  | send id =>
    obtain ⟨s, hs, rfl, v, hh, -, -, rfl⟩ := send?_cases h
    refine work_lt_of_update n hs h _ rfl rfl rfl ?_
    have hsame : { s with hand := none, output := s.output ++ [v] }.inSlots = s.inSlots := rfl
    simp only [taskWork, hsame, hh, Option.toList, List.length_nil, List.length_singleton]
    omega
  | leave id =>
    obtain ⟨s, hs, rfl, hp, -, rfl⟩ := leave?_cases h
    refine work_lt_of_update n hs h _ rfl rfl rfl ?_
    have hsame : { s with phase := .leaving, hand := none }.inSlots = s.inSlots := rfl
    simp only [taskWork, hsame, hp, Phase.remaining, Option.toList, List.length_nil]
    omega
  | detach id =>
    obtain ⟨s, hs, rfl, hp, rfl⟩ := detach?_cases h
    refine work_lt_of_update n hs h _ rfl rfl rfl ?_
    have hnone : { s with phase := .waiting, slots := fun _ => [] }.inSlots = 0 := rfl
    simp only [taskWork, hnone, hp, Phase.remaining]
    omega
  | release id =>
    obtain ⟨s, hs, rfl, hp, -, mask, -, ⟨-, rfl⟩ | ⟨-, rfl⟩⟩ := release?_cases h
    · exact work_lt_of_update n hs h _ rfl rfl rfl (shorter (by rw [hp]; decide))
    · exact work_lt_of_update n hs h _ rfl rfl rfl (shorter (by simp [hp, Phase.remaining]))
  | unregister id =>
    obtain ⟨s, hs, rfl, mask, hp, -, rfl⟩ := unregister?_cases h
    exact work_lt_of_update n hs h _ rfl rfl rfl (shorter (by simp [hp, Phase.remaining]))
  | close id =>
    obtain ⟨s, hs, rfl, hp, rfl⟩ := close?_cases h
    exact work_lt_of_update n hs h _ rfl rfl rfl (shorter (by rw [hp]; decide))
  | finish id =>
    obtain ⟨s, hs, rfl, hp, rfl⟩ := finish?_cases h
    exact work_lt_of_update n hs h _ rfl rfl rfl (shorter (by rw [hp]; decide))

theorem Reachable.moves_le_work (h : Reachable m) {mvs : List Move}
    (hrun : m.run? (mvs.map .move) = some m') : mvs.length + m'.work ≤ m.work := by
  induction mvs generalizing m with
  | nil =>
    cases hrun
    simp
  | cons mv mvs ih =>
    rw [List.map_cons, run?_cons, Option.bind_eq_some_iff] at hrun
    obtain ⟨n, hmv, hrest⟩ := hrun
    have hless := move?_work h.numbered hmv
    have hmore := ih (h.act hmv) hrest
    rw [List.length_cons]
    omega

end Monitor

end GpuTelemetry
