import GpuTelemetry.Proofs.Attribution
import GpuTelemetry.Proofs.Cancellation
import GpuTelemetry.Proofs.Journal

namespace GpuTelemetry

theorem Violation.ofResponse?_of_mask {r : Response} {c : Condition} (h : r.condition = c.mask) :
    ∃ v, ofResponse? r = some v ∧ v.condition = c := by
  have hc : Condition.ofMask? r.condition = some c := Condition.ofMask?_eq_some_iff.mpr h.symm
  exact ⟨_, by rw [ofResponse?, hc]; rfl, rfl⟩

theorem Violation.ofResponse?_of_no_mask {r : Response} (h : ∀ c : Condition, r.condition ≠ c.mask) :
    ofResponse? r = none := by
  have hnone : Condition.ofMask? r.condition = none := by
    rw [Option.eq_none_iff_forall_ne_some]
    intro c hc
    exact h c (Condition.ofMask?_eq_some_iff.mp hc).symm
  simp [ofResponse?, hnone]

namespace Monitor

variable {m n m' : Monitor} {f : Firing} {target : Registration} {v : Violation} {p i : Nat}
  {a : Action}

def Full (m : Monitor) (id : Nat) (c : Condition) : Prop :=
  id ∈ m.registry ∧ ∃ s ∈ m.subscriptions, s.id = id ∧ c ∈ s.conditions ∧
    Limits.slotCapacity ≤ (s.slots c).length

section deliver

theorem deliver?_waits (h : m.deliver? f target = none) : f.onExecutor = false ∧
    ∃ v, Violation.ofResponse? f.response = some v ∧ m.Full target.user v.condition := by
  unfold deliver? at h
  split at h
  · cases h
  · split at h
    · cases h
    · rename_i v hv
      split at h
      · cases h
      · rename_i s hs
        obtain ⟨hm, hid, hreg, hc⟩ := receiver?_cases hs
        split at h
        · cases h
        · rename_i hexec
          split at h
          · cases h
          · rename_i hroom
            exact ⟨by simpa using hexec, v, hv, hreg, s, hm, hid, hc, Nat.le_of_not_lt hroom⟩

theorem deliver?_none (sink : target.sink = .subscriptions)
    (undecodable : Violation.ofResponse? f.response = none) (h : m.deliver? f target = some n) :
    n = m := by
  simp only [deliver?, sink, undecodable] at h
  exact (Option.some.inj h).symm

theorem deliver?_detached (sink : target.sink = .subscriptions)
    (decoded : Violation.ofResponse? f.response = some v) (gone : target.user ∉ m.registry)
    (h : m.deliver? f target = some n) : n = m := by
  have hnobody : m.receiver? target.user v.condition = none := by simp [receiver?, gone]
  simp only [deliver?, sink, decoded, hnobody] at h
  exact (Option.some.inj h).symm

theorem deliver?_attached {s : Subscription} (sink : target.sink = .subscriptions)
    (decoded : Violation.ofResponse? f.response = some v) (attached : target.user ∈ m.registry)
    (known : m.subscription? target.user = some s) (watched : v.condition ∈ s.conditions)
    (h : m.deliver? f target = some n) :
    if f.onExecutor then n = m
    else (s.slots v.condition).length < Limits.slotCapacity ∧ n = m.accept target.user v := by
  have hreceiver : m.receiver? target.user v.condition = some s := by
    simp [receiver?, attached, known, watched]
  simp only [deliver?, sink, decoded, hreceiver] at h
  cases hexec : f.onExecutor with
  | true =>
    simp only [hexec, if_true] at h ⊢
    exact (Option.some.inj h).symm
  | false =>
    simp only [hexec, Bool.false_eq_true, if_false] at h ⊢
    split at h
    · rename_i room
      exact ⟨room, (Option.some.inj h).symm⟩
    · cases h

end deliver

structure Callback where
  before : Monitor
  target : Registration
  after : Monitor

def place (m : Monitor) (p : Nat) : Action → Option Nat
  | .move (.launch i) => if i = p then none else some p
  | .move (.callBack i) =>
    if i = p then some (m.firings.length - 1) else if i < p then some (p - 1) else some p
  | .move (.report i) => if i = p then none else if i < p then some (p - 1) else some p
  | _ => some p

def toCall (m : Monitor) (p : Nat) : List Registration := (m.firings[p]?.map (·.targets)).getD []

def made (m : Monitor) (p : Nat) (n : Monitor) : Action → List Callback
  | .move (.callBack i) => if i = p then ((m.toCall p).take 1).map fun t => ⟨m, t, n⟩ else []
  | _ => []

/-- The callbacks that the firing at `p` makes for its present violation in the course of a run. -/
def callbacks (m : Monitor) (p : Nat) : List Action → List Callback
  | [] => []
  | a :: as =>
    match m.act? a with
    | some n => m.made p n a ++ ((m.place p a).map (n.callbacks · as)).getD []
    | none => []

def pending (m : Monitor) (p : Nat) : List Action → List Registration
  | [] => m.toCall p
  | a :: as =>
    match m.act? a with
    | some n => ((m.place p a).map (n.pending · as)).getD []
    | none => []

end Monitor

structure Firing.Same (f g : Firing) : Prop where
  engine : g.engine = f.engine
  response : g.response = f.response
  onExecutor : g.onExecutor = f.onExecutor

theorem Firing.Same.refl (f : Firing) : f.Same f := ⟨rfl, rfl, rfl⟩

theorem Firing.Same.trans {f g h : Firing} (hfg : f.Same g) (hgh : g.Same h) : f.Same h :=
  ⟨hgh.engine.trans hfg.engine, hgh.response.trans hfg.response,
    hgh.onExecutor.trans hfg.onExecutor⟩

namespace Monitor

variable {m n m' : Monitor} {f : Firing} {p i : Nat} {a : Action}

inductive Fires (m : Monitor) (p : Nat) (f : Firing) (a : Action) (n : Monitor) : Prop
  | stays (q : Nat) (g : Firing) (place : m.place p a = some q) (found : n.firings[q]? = some g)
      (same : f.Same g) (targets : g.targets = f.targets) (made : m.made p n a = [])
  | called (q : Nat) (g : Firing) (target : Registration) (turn : a = .move (.callBack p))
      (place : m.place p a = some q) (found : n.firings[q]? = some g) (same : f.Same g)
      (targets : f.targets = target :: g.targets) (made : m.made p n a = [⟨m, target, n⟩])
  | ended (place : m.place p a = none) (made : m.made p n a = []) (targets : f.targets = [])

theorem fires_of_quiet (hf : m.firings[p]? = some f) (h : m.act? a = some n)
    (quiet : a.fires = false) (place : m.place p a = some p) (made : m.made p n a = []) :
    Fires m p f a n := by
  refine .stays p f place ?_ (.refl f) rfl made
  rw [(act?_frame h).firings quiet]
  exact hf

theorem launch_fires (hf : m.firings[p]? = some f) (h : m.act? (.move (.launch i)) = some n) :
    Fires m p f (.move (.launch i)) n := by
  obtain ⟨f', hf', hnone, -, rfl⟩ := launch?_next h
  by_cases hi : i = p
  · subst hi
    obtain rfl := Option.some.inj (hf.symm.trans hf')
    exact .ended (by simp [place]) rfl hnone
  · refine .stays p f (by simp [place, hi]) ?_ (.refl f) rfl rfl
    rw [List.getElem?_set_ne hi]
    exact hf

theorem place_of_ne (hi : i ≠ p) :
    m.place p (.move (.callBack i)) = some (if i < p then p - 1 else p) ∧
      m.place p (.move (.report i)) = some (if i < p then p - 1 else p) := by
  by_cases hlt : i < p <;> simp [place, hi, hlt]

theorem callBack_fires (hf : m.firings[p]? = some f) (h : m.act? (.move (.callBack i)) = some n) :
    Fires m p f (.move (.callBack i)) n := by
  obtain ⟨f', target, rest, o, hf', htargets, hd, rfl⟩ := callBack?_cases h
  have hfirings := hd.firings
  by_cases hi : i = p
  · subst hi
    obtain rfl := Option.some.inj (hf.symm.trans hf')
    have hlt : i < m.firings.length := (List.getElem?_eq_some_iff.mp hf).1
    refine .called (m.firings.length - 1) { f with targets := rest } target rfl (by simp [place]) ?_
      ⟨rfl, rfl, rfl⟩ htargets ?_
    · have hlength : (m.firings.eraseIdx i).length = m.firings.length - 1 :=
        List.length_eraseIdx_of_lt hlt
      simp only [hfirings]
      rw [← hlength, List.getElem?_concat_length]
    · simp [made, toCall, hf, htargets]
  · refine .stays _ f (place_of_ne hi).1 ?_ (.refl f) rfl (by simp [made, hi])
    have hshift := (getElem?_eraseIdx_shift (l := m.firings) hi).trans hf
    have hlt := (List.getElem?_eq_some_iff.mp hshift).1
    simp only [hfirings]
    rw [List.getElem?_append_left hlt]
    exact hshift

theorem report_fires (hf : m.firings[p]? = some f) (h : m.act? (.move (.report i)) = some n) :
    Fires m p f (.move (.report i)) n := by
  obtain ⟨f', hf', hnone, -, rfl⟩ := report?_cases h
  by_cases hi : i = p
  · subst hi
    obtain rfl := Option.some.inj (hf.symm.trans hf')
    exact .ended (by simp [place]) rfl hnone
  · exact .stays _ f (place_of_ne hi).2 ((getElem?_eraseIdx_shift hi).trans hf) (.refl f) rfl rfl

theorem act?_fires (hf : m.firings[p]? = some f) (h : m.act? a = some n) : Fires m p f a n := by
  have later (extra : Firing) : (m.firings ++ [extra])[p]? = some f := by
    rw [List.getElem?_append_left (List.getElem?_eq_some_iff.mp hf).1]
    exact hf
  cases a with
  | fire | fireAt =>
    cases h
    exact .stays p f rfl (later _) (.refl f) rfl rfl
  | move mv =>
    cases mv with
    | launch => exact launch_fires hf h
    | callBack => exact callBack_fires hf h
    | report => exact report_fires hf h
    | _ => exact fires_of_quiet hf h rfl rfl rfl
  | _ => exact fires_of_quiet hf h rfl rfl rfl

theorem callbacks_then_pending {as : List Action} (hf : m.firings[p]? = some f)
    (h : m.run? as = some m') :
    (m.callbacks p as).map (·.target) ++ m.pending p as = f.targets := by
  -- on the run, with the place of the firing: each callback sends it to the end of the queue
  induction as generalizing m p f with
  | nil => simp [callbacks, pending, toCall, hf]
  | cons a as ih =>
    rw [run?_cons, Option.bind_eq_some_iff] at h
    obtain ⟨n, ha, hn⟩ := h
    simp only [callbacks, pending, ha]
    cases act?_fires hf ha with
    | stays q g place found same targets made =>
      simp only [place, made, Option.map_some, Option.getD_some, List.nil_append]
      rw [ih found hn, targets]
    | called q g target turn place found same targets made =>
      simp only [place, made, Option.map_some, Option.getD_some, List.cons_append, List.nil_append,
        List.map_cons]
      rw [ih found hn, targets]
    | ended place made targets => simp [place, made, targets]

theorem pending_turn {as : List Action} (hf : m.firings[p]? = some f) (h : m.run? as = some m')
    {target : Registration} {rest : List Registration} (hp : m.pending p as = target :: rest) :
    ∃ q g, m'.firings[q]? = some g ∧ f.Same g ∧ g.targets = target :: rest ∧
      ∀ o, m'.act? (.move (.callBack q)) = some o →
        m.pending p (as ++ [.move (.callBack q)]) = rest := by
  induction as generalizing m p f with
  | nil =>
    cases h
    have htargets : f.targets = target :: rest := by simpa [pending, toCall, hf] using hp
    refine ⟨p, f, hf, .refl f, htargets, fun o ho => ?_⟩
    cases act?_fires hf ho with
    | stays q g place found same targets made => simp [Monitor.made, toCall, hf, htargets] at made
    | called q g target' turn place found same targets made =>
      rw [htargets] at targets
      simp [pending, ho, place, toCall, found, (List.cons.inj targets).2]
    | ended place made targets => simp [targets] at htargets
  | cons a as ih =>
    rw [run?_cons, Option.bind_eq_some_iff] at h
    obtain ⟨n, ha, hn⟩ := h
    have moved : ∃ q g, m.place p a = some q ∧ n.firings[q]? = some g ∧ f.Same g := by
      cases act?_fires hf ha with
      | stays q g place found same => exact ⟨q, g, place, found, same⟩
      | called q g target' turn place found same => exact ⟨q, g, place, found, same⟩
      | ended place => simp [pending, ha, place] at hp
    obtain ⟨q, g, place, found, same⟩ := moved
    simp only [pending, ha, place, Option.map_some, Option.getD_some] at hp
    obtain ⟨q', g', found', same', targets', next⟩ := ih found hn hp
    refine ⟨q', g', found', same.trans same', targets', fun o ho => ?_⟩
    simp only [List.cons_append, pending, ha, place, Option.map_some, Option.getD_some]
    exact next o ho

def Callback.StepOf (k : Callback) (f : Firing) : Prop :=
  ∃ q g rest, k.before.firings[q]? = some g ∧ f.Same g ∧ g.targets = k.target :: rest ∧
    k.before.act? (.move (.callBack q)) = some k.after

theorem Callback.StepOf.same {k : Callback} {g : Firing} (h : k.StepOf g) (same : f.Same g) :
    k.StepOf f := by
  obtain ⟨q, g', rest, found, same', htargets, step⟩ := h
  exact ⟨q, g', rest, found, same.trans same', htargets, step⟩

theorem callback_step {as : List Action} (hf : m.firings[p]? = some f) (h : m.run? as = some m')
    {k : Callback} (hk : k ∈ m.callbacks p as) :
    ∃ before, m.run? before = some k.before ∧ k.StepOf f := by
  induction as generalizing m p f with
  | nil => cases hk
  | cons a as ih =>
    rw [run?_cons, Option.bind_eq_some_iff] at h
    obtain ⟨n, ha, hn⟩ := h
    have later {q : Nat} {g : Firing} (found : n.firings[q]? = some g) (same : f.Same g)
        (hk : k ∈ n.callbacks q as) : ∃ before, m.run? before = some k.before ∧ k.StepOf f := by
      obtain ⟨before, hrun, step⟩ := ih found hn hk
      exact ⟨a :: before, by simp [ha, hrun], step.same same⟩
    simp only [callbacks, ha] at hk
    cases act?_fires hf ha with
    | stays q g place found same targets made =>
      simp only [place, made, Option.map_some, Option.getD_some, List.nil_append] at hk
      exact later found same hk
    | called q g target turn place found same targets made =>
      simp only [place, made, Option.map_some, Option.getD_some, List.singleton_append] at hk
      obtain rfl | hk := List.mem_cons.mp hk
      · subst turn
        exact ⟨[], rfl, p, f, g.targets, hf, .refl f, targets, ha⟩
      · exact later found same hk
    | ended place made targets => simp [place, made] at hk

theorem Reachable.registry_of_le {as : List Action} (h : Reachable m) (hrun : m.run? as = some m') :
    m.lastId ≤ m'.lastId ∧ ∀ id ≤ m.lastId, id ∈ m'.registry → id ∈ m.registry := by
  refine run?_induction (P := fun _ n => m.lastId ≤ n.lastId ∧
    ∀ id ≤ m.lastId, id ∈ n.registry → id ∈ m.registry) ?_ ?_ as m' hrun
  · exact ⟨Nat.le_refl _, fun _ _ hid => hid⟩
  intro bs n a n' hn ih ha
  obtain ⟨hle, hback⟩ := ih
  have hr := h.run hn
  have hlast : n.lastId ≤ n'.lastId := by
    obtain ⟨-, -, -, -, -, -, hlast⟩ := hr.evolves ha
    exact hlast
  refine ⟨Nat.le_trans hle hlast, fun id hid hmem => ?_⟩
  cases act?_listing hr.numbered ha with
  | kept registry => exact hback id hid (registry ▸ hmem)
  | joined registry last =>
    rw [registry, List.mem_cons] at hmem
    -- who joins has the next number, which is past all that have been handed out
    obtain rfl | hmem := hmem
    · omega
    · exact hback id hid hmem
  | detached registry =>
    rw [registry] at hmem
    exact hback id hid (List.mem_of_mem_erase hmem)

/-- The state after a callback that reaches nobody: the engine thread goes on, and that is all. -/
def Callback.Spent (k : Callback) (e : Nat) : Prop :=
  k.after = { k.before.note (.callback e k.target) with firings := k.after.firings }

/-- A callback that puts `v` last into the slot for its condition of the subscription with its number,
which watches the condition and has room there. No other slot of any subscription changes. -/
structure Callback.Offers (k : Callback) (e : Nat) (v : Violation) : Prop where
  receiver : ∃ s ∈ k.before.subscriptions, s.id = k.target.user ∧ v.condition ∈ s.conditions ∧
    (s.slots v.condition).length < Limits.slotCapacity
  list : k.after.subscriptions = k.before.subscriptions.map fun s =>
    { s with slots := fun c =>
        if s.id = k.target.user ∧ c = v.condition then s.slots c ++ [v] else s.slots c }
  rest : k.after = { k.before with
    subscriptions := k.after.subscriptions
    firings := k.after.firings
    journal := .callback e k.target :: .accepted k.target.user v :: k.before.journal }

theorem accept_subscriptions (m : Monitor) (id : Nat) (v : Violation) :
    (m.accept id v).subscriptions = m.subscriptions.map fun s =>
      { s with slots := fun c =>
          if s.id = id ∧ c = v.condition then s.slots c ++ [v] else s.slots c } := by
  apply List.map_congr_left
  intro s _
  by_cases hid : s.id = id
  · have hslots : assign s.slots v.condition (s.slots v.condition ++ [v]) =
        fun c => if c = v.condition then s.slots c ++ [v] else s.slots c := by
      funext c
      by_cases hc : c = v.condition
      · simp [hc]
      · simp [hc]
    simp [hid, hslots]
  · simp [hid]

theorem Callback.StepOf.delivers {k : Callback} (h : k.StepOf f) :
    ∃ o, k.before.deliver? f k.target = some o ∧
      k.after = { o.note (.callback f.engine k.target) with firings := k.after.firings } := by
  obtain ⟨q, g, rest, found, same, htargets, step⟩ := h
  change k.before.callBack? q = some k.after at step
  simp only [callBack?, found, htargets] at step
  obtain ⟨o, ho, hafter⟩ := Option.map_eq_some_iff.mp step
  refine ⟨o, ?_, ?_⟩
  · rw [← ho]
    simp only [deliver?, same.response, same.onExecutor]
  · rw [← hafter, same.engine]

section callback

variable {k : Callback} (step : k.StepOf f) (sink : k.target.sink = .subscriptions)
include step sink

theorem spent_of_undecodable (undecodable : Violation.ofResponse? f.response = none) :
    k.Spent f.engine := by
  obtain ⟨o, ho, hafter⟩ := step.delivers
  rw [deliver?_none sink undecodable ho] at hafter
  exact hafter

variable {v : Violation} (decoded : Violation.ofResponse? f.response = some v)
include decoded

theorem spent_of_detached (gone : k.target.user ∉ k.before.registry) : k.Spent f.engine := by
  obtain ⟨o, ho, hafter⟩ := step.delivers
  rw [deliver?_detached sink decoded gone ho] at hafter
  exact hafter

theorem offers_of_attached {s : Subscription} (attached : k.target.user ∈ k.before.registry)
    (known : k.before.subscription? k.target.user = some s) (watched : v.condition ∈ s.conditions) :
    if f.onExecutor then k.Spent f.engine else k.Offers f.engine v := by
  obtain ⟨o, ho, hafter⟩ := step.delivers
  have hdelivered := deliver?_attached sink decoded attached known watched ho
  cases hexec : f.onExecutor with
  | true =>
    rw [hexec, if_pos rfl] at hdelivered
    subst hdelivered
    exact hafter
  | false =>
    rw [hexec, if_neg Bool.false_ne_true] at hdelivered
    obtain ⟨room, rfl⟩ := hdelivered
    obtain ⟨hs, hid⟩ := mem_of_subscription? known
    have hlist : k.after.subscriptions = (k.before.accept k.target.user v).subscriptions :=
      (congrArg Monitor.subscriptions hafter :)
    refine ⟨⟨s, hs, hid, watched, room⟩, hlist.trans (accept_subscriptions ..), ?_⟩
    rw [hlist]
    exact hafter

end callback

section launched

variable {as : List Action} (hf : m.firings[i]? = some f)
  (launched : m.act? (.move (.launch i)) = some n)
include hf launched

theorem launched_firing : ∃ g, n.firings[i]? = some g ∧ { f with response := f.upcoming }.Same g ∧
    g.targets = (m.engines f.engine).sim.targets f.response.condition := by
  obtain ⟨f', hf', -, -, rfl⟩ := launch?_next launched
  obtain rfl := Option.some.inj (hf.symm.trans hf')
  have hlt : i < m.firings.length := (List.getElem?_eq_some_iff.mp hf).1
  refine ⟨_, List.getElem?_set_self hlt, ⟨rfl, rfl, rfl⟩, ?_⟩
  rw [← f.upcoming_condition]
  rfl

theorem called_then_pending (run : n.run? as = some m') :
    (n.callbacks i as).map (·.target) ++ n.pending i as =
      (m.engines f.engine).sim.targets f.response.condition := by
  obtain ⟨g, hg, -, targets⟩ := launched_firing hf launched
  exact (callbacks_then_pending hg run).trans targets

theorem pending_waits (run : n.run? as = some m') {target : Registration} {rest : List Registration}
    (hp : n.pending i as = target :: rest) : ∃ q,
      (∀ o, m'.act? (.move (.callBack q)) = some o →
        n.pending i (as ++ [.move (.callBack q)]) = rest) ∧
      (m'.act? (.move (.callBack q)) = none → f.onExecutor = false ∧
        ∃ v, Violation.ofResponse? f.upcoming = some v ∧ m'.Full target.user v.condition) := by
  obtain ⟨g, hg, same, -⟩ := launched_firing hf launched
  obtain ⟨q, g', found, same', htargets, next⟩ := pending_turn hg run hp
  refine ⟨q, next, fun stuck => ?_⟩
  change m'.callBack? q = none at stuck
  simp only [callBack?, found, htargets, Option.map_eq_none_iff] at stuck
  obtain ⟨executor, v, hv, full⟩ := deliver?_waits stuck
  have now := same.trans same'
  refine ⟨now.onExecutor.symm.trans executor, v, ?_, full⟩
  rw [← hv, now.response]

theorem callback_origin (h : Reachable m) (known : f.engine < m.engineCount)
    (run : n.run? as = some m') {k : Callback} (hk : k ∈ n.callbacks i as) :
    (∃ before, m.run? before = some k.before) ∧ k.StepOf { f with response := f.upcoming } ∧
      m.Owns f.engine k.target ∧ ∀ c : Condition, f.response.condition = c.mask →
        c.isIn k.target.mask = true := by
  have htarget : k.target ∈ (m.engines f.engine).sim.targets f.response.condition := by
    rw [← called_then_pending hf launched run]
    exact List.mem_append_left _ (List.mem_map_of_mem hk)
  obtain ⟨g, hg, same, -⟩ := launched_firing hf launched
  obtain ⟨before, hbefore, step⟩ := callback_step hg run hk
  refine ⟨⟨.move (.launch i) :: before, by simp [launched, hbefore]⟩, step.same same,
    owns_target h known htarget, fun c single => ?_⟩
  rw [single] at htarget
  exact (mem_targets.mp htarget).2.1

theorem called_users_nodup (h : Reachable m) (known : f.engine < m.engineCount)
    (run : n.run? as = some m') : ((n.callbacks i as).map (·.target.user)).Nodup := by
  have hall := targets_users h known f.response.condition
  rw [← called_then_pending hf launched run, List.map_append, List.map_map] at hall
  exact (List.nodup_append.mp hall).1

theorem holder_called (h : Reachable m) (run : n.run? as = some m') {c : Condition}
    (single : f.response.condition = c.mask) {s : Subscription} (hs : s ∈ m.subscriptions)
    (engine : s.key.engine = f.engine) (holds : s.phase.holds = true) (hc : c ∈ s.conditions)
    (through : n.pending i as = []) : ∃ k ∈ n.callbacks i as, k.target.user = s.id := by
  have htarget := registration_mem_targets h hs holds hc
  rw [engine, ← single, ← called_then_pending hf launched run, through, List.append_nil] at htarget
  obtain ⟨k, hk, hregistration⟩ := List.mem_map.mp htarget
  exact ⟨k, hk, congrArg (·.user) hregistration⟩

theorem callback_spent (h : Reachable m) (known : f.engine < m.engineCount)
    (run : n.run? as = some m') (none : ∀ c : Condition, f.response.condition ≠ c.mask)
    {k : Callback} (hk : k ∈ n.callbacks i as) : k.Spent f.engine := by
  obtain ⟨-, step, ⟨sink, -⟩, -⟩ := callback_origin hf launched h known run hk
  have undecodable : Violation.ofResponse? f.upcoming = Option.none := by
    apply Violation.ofResponse?_of_no_mask
    rw [f.upcoming_condition]
    exact none
  have hspent := spent_of_undecodable step sink undecodable
  exact hspent

theorem callback_reaches (h : Reachable m) (known : f.engine < m.engineCount)
    (run : n.run? as = some m') {c : Condition} (single : f.response.condition = c.mask)
    {v : Violation} (decoded : Violation.ofResponse? f.upcoming = some v) (hv : v.condition = c)
    {k : Callback} (hk : k ∈ n.callbacks i as) :
    (k.target.user ∉ k.before.registry → k.Spent f.engine) ∧
    (k.target.user ∈ k.before.registry →
      (if f.onExecutor then k.Spent f.engine else k.Offers f.engine v) ∧
      ∃ s ∈ m.subscriptions, s.id = k.target.user ∧ s.key.engine = f.engine ∧ c ∈ s.conditions ∧
        s.phase.isAttached = true) := by
  obtain ⟨⟨before, hbefore⟩, step, ⟨sink, s, hs, hid, hkey, hmask⟩, hin⟩ :=
    callback_origin hf launched h known run hk
  have hc : c ∈ s.conditions := hmask c (hin c single)
  have hdetached := spent_of_detached step sink decoded
  refine ⟨hdetached, fun attached => ⟨?_, s, hs, hid, ?_, hc, ?_⟩⟩
  · obtain ⟨t, ht, htid, -, htc⟩ := h.stays_named hs hbefore
    have found : k.before.subscription? k.target.user = some t := by
      rw [← hid, ← htid]
      exact (h.run hbefore).numbered.subscription?_of_mem ht
    have watched : v.condition ∈ t.conditions := by
      rw [htc, hv]
      exact hc
    have hoffers := offers_of_attached step sink decoded attached found watched
    exact hoffers
  · rw [hkey]
  · rw [← hid] at attached
    have hregistry := (h.registry_of_le hbefore).2 s.id (h.numbered.le s hs) attached
    exact (h.listed.attached s hs).mp hregistry

end launched

/-- One violation, from the launch of a firing to the end of any run. The engine calls back once for
each of its targets, no number twice, and for everyone who holds the condition there; it only waits where
a slot is full. A callback puts the occurrence into the slot of the subscription with its number, if that
is still attached; otherwise it changes nothing, and its number is not handed out again. A response that
does not name just one condition changes nothing either. -/
theorem violation_fans_out (h : Reachable m) (hf : m.firings[i]? = some f)
    (known : f.engine < m.engineCount) (launched : m.act? (.move (.launch i)) = some n)
    {as : List Action} (run : n.run? as = some m') :
    ((n.callbacks i as).map (·.target) ++ n.pending i as =
        (m.engines f.engine).sim.targets f.response.condition ∧
      ((n.callbacks i as).map (·.target.user)).Nodup ∧
      ∀ target rest, n.pending i as = target :: rest → ∃ q,
        (∀ o, m'.act? (.move (.callBack q)) = some o →
          n.pending i (as ++ [.move (.callBack q)]) = rest) ∧
        (m'.act? (.move (.callBack q)) = none → f.onExecutor = false ∧
          ∃ v, Violation.ofResponse? f.upcoming = some v ∧ m'.Full target.user v.condition)) ∧
    (∀ c : Condition, f.response.condition = c.mask →
      (∀ s ∈ m.subscriptions, s.key.engine = f.engine → s.phase.holds = true → c ∈ s.conditions →
        n.pending i as = [] → ∃ k ∈ n.callbacks i as, k.target.user = s.id) ∧
      ∃ v, Violation.ofResponse? f.upcoming = some v ∧ v.condition = c ∧
        ∀ k ∈ n.callbacks i as,
          (k.target.user ∉ k.before.registry → k.Spent f.engine) ∧
          (k.target.user ∈ k.before.registry →
            (if f.onExecutor then k.Spent f.engine else k.Offers f.engine v) ∧
            ∃ s ∈ m.subscriptions, s.id = k.target.user ∧ s.key.engine = f.engine ∧
              c ∈ s.conditions ∧ s.phase.isAttached = true)) ∧
    ((∀ c : Condition, f.response.condition ≠ c.mask) →
      ∀ k ∈ n.callbacks i as, k.Spent f.engine) ∧
    m'.issued = List.range' 1 m'.lastId ∧ ∀ id ≤ m.lastId, id ∉ m.registry → id ∉ m'.registry := by
  have hrun : m.run? (.move (.launch i) :: as) = some m' := by simp [launched, run]
  refine ⟨⟨called_then_pending hf launched run, called_users_nodup hf launched h known run,
    fun target rest hp => pending_waits hf launched run hp⟩, ?_, ?_, (h.run hrun).issued_eq, ?_⟩
  · intro c single
    have hmask : f.upcoming.condition = c.mask := f.upcoming_condition.trans single
    obtain ⟨v, decoded, hv⟩ := Violation.ofResponse?_of_mask hmask
    refine ⟨fun s hs engine holds hc through => ?_, v, decoded, hv, fun k hk => ?_⟩
    · exact holder_called hf launched h run single hs engine holds hc through
    · exact callback_reaches hf launched h known run single decoded hv hk
  · intro none k hk
    exact callback_spent hf launched h known run none hk
  · intro id hle gone back
    exact gone ((h.registry_of_le hrun).2 id hle back)

def remnant : List Action :=
  [.addEngine, .activate 0, .addToken none,
    .ask 0 { conditions := [.thermal, .xid], token := 0 }, .move (.enter 0),
    .ask 1 { conditions := [.power, .thermal], token := 0 }, .move (.enter 0),
    .move (.start 1), .cancel 1, .move (.leave 1), .move (.detach 1), .move (.release 1),
    .move (.unregister 1), .set 0 (.registerStatus .memory),
    .ask 2 { conditions := [.thermal], token := 0 }, .move (.enter 0),
    .set 0 (.registerStatus .ok), .ask 3 { conditions := [.thermal], token := 0 },
    .move (.enter 0), .fire 0 0 (.report .thermal 0 95 0) 1 false]

theorem remnant_is_passed_over : ∃ m n, run? {} remnant = some m ∧
    m.act? (.move (.launch 0)) = some n ∧
    (n.callbacks 0 (List.replicate 3 (.move (.callBack 0)))).map (·.target.user) = [1, 2, 4] ∧
    (∃ v, v.detail = .thermal 95 ∧
      ∀ k ∈ n.callbacks 0 (List.replicate 3 (.move (.callBack 0))),
        (k.target.user = 1 → k.Spent 0) ∧ (k.target.user ≠ 1 → k.Offers 0 v)) ∧
    ∃ m', n.run? (List.replicate 3 (.move (.callBack 0))) = some m' ∧
      m'.subscriptions.map (fun s => (s.id, (s.slots .thermal).map (·.detail), s.slots .xid)) =
        [(1, [], []), (2, [.thermal 95], []), (4, [.thermal 95], [])] := by
  let m := (run? {} remnant).get (by decide +kernel)
  have hm : run? {} remnant = some m := by simp [m]
  let f := m.firings[0]?.get (by decide +kernel)
  have hf : m.firings[0]? = some f := by simp [f]
  have engine : f.engine = 0 := by decide +kernel
  have known : f.engine < m.engineCount := by decide +kernel
  let n := (m.act? (.move (.launch 0))).get (by decide +kernel)
  have launched : m.act? (.move (.launch 0)) = some n := by simp [n]
  let calls : List Action := List.replicate 3 (.move (.callBack 0))
  let m' := (n.run? calls).get (by decide +kernel)
  have run : n.run? calls = some m' := by simp [m']
  have single : f.response.condition = Condition.thermal.mask := by decide +kernel
  obtain ⟨-, hcallbacks, -⟩ := violation_fans_out ⟨_, hm⟩ hf known launched run
  obtain ⟨-, v, decoded, -, reached⟩ := hcallbacks .thermal single
  rw [engine] at reached
  have gone : ∀ k ∈ n.callbacks 0 calls, k.target.user = 1 → k.target.user ∉ k.before.registry := by
    decide +kernel
  have attached : ∀ k ∈ n.callbacks 0 calls, k.target.user ≠ 1 →
      k.target.user ∈ k.before.registry := by
    decide +kernel
  refine ⟨m, n, hm, launched, by decide +kernel,
    ⟨v, ?_, fun k hk => ⟨fun first => ?_, fun other => ?_⟩⟩, m', run, by decide +kernel⟩
  · have hupcoming : Violation.ofResponse? f.upcoming =
        some ⟨.thermal, 0, 0, .thermal 95⟩ := by decide +kernel
    rw [← Option.some.inj (hupcoming.symm.trans decoded)]
  · exact (reached k hk).1 (gone k hk first)
  · obtain ⟨offers, -⟩ := (reached k hk).2 (attached k hk other)
    have hexec : f.onExecutor = false := by decide +kernel
    rw [if_neg (by simp [hexec])] at offers
    exact offers

end Monitor

end GpuTelemetry
