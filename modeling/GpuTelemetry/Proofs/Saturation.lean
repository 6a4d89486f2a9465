import GpuTelemetry.Proofs.Quiescence
import Mathlib.Data.Multiset.ZeroCons

namespace GpuTelemetry

open scoped List

theorem Violation.condition_of_ofResponse? {r : Response} {v : Violation}
    (h : ofResponse? r = some v) : Condition.ofMask? r.condition = some v.condition := by
  obtain ⟨c, hc, rfl⟩ := Option.map_eq_some_iff.mp h
  exact hc

def Firing.Spares (f : Firing) (s : Subscription) : Prop :=
  ∀ c, Condition.ofMask? f.response.condition = some c → c ∈ s.conditions →
    (f.total = 0 ∨ f.engine ≠ s.key.engine) ∧ ∀ t ∈ f.targets, t.user ≠ s.id

theorem perm_cons_cases {β : Type} {x y : β} {xs ys : List β} (h : x :: xs ~ y :: ys) :
    (x = y ∧ xs ~ ys) ∨ ∃ zs, xs ~ y :: zs ∧ ys ~ x :: zs := by
  have hsets : x ::ₘ (xs : Multiset β) = y ::ₘ (ys : Multiset β) := by
    simpa using Multiset.coe_eq_coe.mpr h
  obtain ⟨hxy, hrest⟩ | ⟨-, zs, hxs, hys⟩ := Multiset.cons_eq_cons.mp hsets
  · exact .inl ⟨hxy, Multiset.coe_eq_coe.mp hrest⟩
  · obtain ⟨zs, rfl⟩ := Quot.exists_rep zs
    exact .inr ⟨zs, Multiset.coe_eq_coe.mp hxs, Multiset.coe_eq_coe.mp hys⟩

namespace Monitor

variable {m m' n n' : Monitor} {s u : Subscription} {a : Action} {i : Nat}

section waiting

theorem deliver?_eq_none_iff (h : m.Numbered) (hs : s ∈ m.subscriptions) {f : Firing}
    {target : Registration} {v : Violation} (sink : target.sink = .subscriptions)
    (user : target.user = s.id) (decoded : Violation.ofResponse? f.response = some v) :
    m.deliver? f target = none ↔ f.onExecutor = false ∧ s.id ∈ m.registry ∧
      v.condition ∈ s.conditions ∧ Limits.slotCapacity ≤ (s.slots v.condition).length := by
  constructor
  · intro waits
    obtain ⟨caller, w, hw, hreg, t, ht, hid, watched, hfull⟩ := deliver?_waits waits
    obtain rfl := Option.some.inj (decoded.symm.trans hw)
    obtain rfl := h.eq_of_id ht hs (hid.trans user)
    exact ⟨caller, user ▸ hreg, watched, hfull⟩
  · rintro ⟨caller, hreg, watched, hfull⟩
    have hreceiver : m.receiver? target.user v.condition = some s := by
      simp [receiver?, user, hreg, h.subscription?_of_mem hs, watched]
    simp only [deliver?, sink, decoded, hreceiver, caller, Bool.false_eq_true, if_false]
    rw [if_neg (Nat.not_lt_of_le hfull)]

theorem callBack?_eq_none_iff {f : Firing} {target : Registration} {rest : List Registration}
    (hf : m.firings[i]? = some f) (turn : f.targets = target :: rest) :
    m.callBack? i = none ↔ m.deliver? f target = none := by
  simp [callBack?, hf, turn]

end waiting

section fired

def completions (m : Monitor) (ticket : Nat) : Nat :=
  ((m.fired? ticket).map (·.1)).getD (m.completed ticket)

theorem Frame.fired? (h : Frame m a m') (hne : ∀ i, a ≠ .move (.report i)) (ticket : Nat) :
    m'.fired? ticket = m.fired? ticket := by
  obtain ⟨events, journal, logs⟩ := h.journal
  rw [Monitor.fired?, journal, List.findSome?_append, List.findSome?_eq_none_iff.mpr, Option.none_or]
  · rfl
  · intro e he
    have hlogs := logs e he
    cases e with
    | fired =>
      cases a with
      | move mv =>
        cases mv with
        | report i => exact absurd rfl (hne i)
        | _ => cases hlogs
      | _ => cases hlogs
    | _ => rfl

theorem completed_of_perm {f : Firing} {others : List Firing} (h : m.firings ~ f :: others)
    (alone : ∀ g ∈ others, g.ticket ≠ f.ticket) : m.completed f.ticket = f.completed := by
  have hfind : m.firings.find? (·.ticket == f.ticket) = some f := by
    cases hg : m.firings.find? (·.ticket == f.ticket) with
    | none =>
      have := List.find?_eq_none.mp hg f (h.mem_iff.mpr List.mem_cons_self)
      simp at this
    | some g =>
      have hticket : g.ticket = f.ticket := by simpa using List.find?_some hg
      obtain rfl | hmem := List.mem_cons.mp (h.mem_iff.mp (List.mem_of_find?_eq_some hg))
      · rfl
      · exact absurd hticket (alone g hmem)
  simp [completed, hfind]

end fired

section steps

theorem accepted_of_step (ev : Evolves m a m') (hs : s ∈ m.subscriptions)
    (hne : ∀ i, a ≠ .move (.callBack i)) : m'.accepted s.id = m.accepted s.id := by
  obtain ⟨s', -, acc, out, step, hacc, -⟩ := ev.successor hs
  cases step with
  | accepted i => exact absurd rfl (hne i)
  | _ => simpa using hacc

theorem Delivered.accepted_cases {f : Firing} {target : Registration} (h : Delivered m f target n)
    (hm : m.Numbered) (hu : u ∈ m.subscriptions) :
    n.accepted u.id = m.accepted u.id ∨
      ∃ v, Violation.ofResponse? f.response = some v ∧ v.condition ∈ u.conditions ∧
        target.user = u.id ∧ n.accepted u.id = m.accepted u.id ++ [v] := by
  cases h with
  | recorded => exact .inl (by simp [accepted_note, Event.acceptedBy?])
  | ignored => exact .inl rfl
  | accepted t v known addressed attached decoded watched room =>
    by_cases hid : t.id = u.id
    · obtain rfl := hm.eq_of_id known hu hid
      refine .inr ⟨v, decoded, watched, addressed.symm, ?_⟩
      simp [accept, accepted_note, Event.acceptedBy?]
    · refine .inl ?_
      simp [accept, accepted_note, Event.acceptedBy?, hid]

theorem Reachable.target_user_ne (h : Reachable m) (hu : u ∈ m.subscriptions) {e : Nat}
    (he : e ≠ u.key.engine) {mask : UInt32} {t : Registration}
    (ht : t ∈ (m.engines e).sim.targets mask) : t.user ≠ u.id := by
  intro hid
  have known : e < m.engineCount := by
    by_contra hle
    have hmem : t ∈ m.registrations e := (List.mem_filter.mp ht).1
    rw [h.unused e (Nat.le_of_not_lt hle)] at hmem
    cases hmem
  obtain ⟨-, w, hw, huser, hkey, -⟩ := owns_target h known ht
  obtain rfl := h.numbered.eq_of_id hw hu (huser.trans hid)
  exact he (by rw [hkey])

end steps

end Monitor

section threads

structure Firing.Bystander (f : Firing) (s : Subscription) (ticket : Nat) : Prop where
  ticket : f.ticket ≠ ticket
  spares : f.Spares s

structure Firing.Floods (f : Firing) (s : Subscription) (c : Condition) (ticket total taken : Nat) :
    Prop where
  ticket : f.ticket = ticket
  engine : f.engine = s.key.engine
  kind : f.response.condition = c.mask
  caller : f.onExecutor = false
  total : f.total = total
  sinks : ∀ t ∈ f.targets, t.sink = .subscriptions
  once : f.targets.countP (·.user == s.id) ≤ 1
  count : taken + f.targets.countP (·.user == s.id) = f.launched

structure Subscription.Lives (u s : Subscription) : Prop where
  id : u.id = s.id
  key : u.key = s.key
  conditions : u.conditions = s.conditions
  live : u.scope.fired = false

open Monitor

variable {n o : Monitor} {s u : Subscription} {f : Firing} {c : Condition} {ticket total taken : Nat}
  {target : Registration} {rest : List Registration}

theorem Firing.Bystander.launch (b : f.Bystander s ticket) (hr : Reachable n)
    (hu : u ∈ n.subscriptions) (lives : u.Lives s) (left : f.launched < f.total) :
    (f.launch ((n.engines f.engine).sim.targets f.upcoming.condition)).Bystander s ticket := by
  refine ⟨b.ticket, fun c hc watched => ?_⟩
  have hkind : Condition.ofMask? f.response.condition = some c := by
    rw [← f.upcoming_condition]
    exact hc
  obtain ⟨hother, -⟩ := b.spares c hkind watched
  have hengine : f.engine ≠ u.key.engine := by
    rw [lives.key]
    exact hother.resolve_left (by omega)
  refine ⟨.inr (lives.key ▸ hengine), fun t ht => ?_⟩
  rw [← lives.id]
  exact hr.target_user_ne hu hengine ht

theorem Firing.Bystander.call (b : f.Bystander s ticket) (turn : f.targets = target :: rest) :
    { f with targets := rest }.Bystander s ticket := by
  refine ⟨b.ticket, fun c hc watched => ?_⟩
  obtain ⟨hother, husers⟩ := b.spares c hc watched
  exact ⟨hother, fun t ht => husers t (by simp [turn, ht])⟩

theorem Firing.Bystander.accepted_eq (b : f.Bystander s ticket) (hn : n.Numbered)
    (hu : u ∈ n.subscriptions) (lives : u.Lives s) (turn : f.targets = target :: rest)
    (delivered : n.deliver? f target = some o) : o.accepted s.id = n.accepted s.id := by
  rw [← lives.id]
  obtain same | ⟨v, decoded, watched, user, -⟩ := (deliver?_cases delivered).accepted_cases hn hu
  · exact same
  · obtain ⟨-, husers⟩ := b.spares v.condition (Violation.condition_of_ofResponse? decoded)
      (lives.conditions ▸ watched)
    exact absurd (user.trans lives.id) (husers target (by simp [turn]))

theorem Subscription.Lives.holds (lives : u.Lives s) (tidy : u.Tidy) :
    u.phase.isAttached = true ∧ u.phase.holds = true := by
  cases hp : u.phase with
  | registered | streaming => exact ⟨rfl, rfl⟩
  | _ =>
    have := tidy.fired (by rw [hp]; rfl)
    simp [lives.live] at this

theorem Firing.Floods.launch (fl : f.Floods s c ticket total taken) (hr : Reachable n)
    (hu : u ∈ n.subscriptions) (lives : u.Lives s) (watched : c ∈ s.conditions)
    (idle : f.targets = []) :
    (f.launch ((n.engines f.engine).sim.targets f.upcoming.condition)).Floods s c ticket total
      taken := by
  have known : u.key.engine < n.engineCount := (hr.wellFormed u hu).engine
  have hengine : f.engine = u.key.engine := by rw [fl.engine, lives.key]
  have hcount := fl.count
  rw [f.upcoming_condition, fl.kind, hengine]
  -- the launch finds the registration of `u` and no other under its number
  have hone : ((n.engines u.key.engine).sim.targets c.mask).countP (·.user == s.id) = 1 := by
    have hmem := registration_mem_targets hr hu (lives.holds (hr.tidy u hu)).2
      (lives.conditions ▸ watched)
    have huser : s.id ∈ ((n.engines u.key.engine).sim.targets c.mask).map (·.user) :=
      List.mem_map.mpr ⟨u.registration, hmem, lives.id⟩
    have hnodup := targets_users hr known c.mask
    have := List.count_eq_one_of_mem hnodup huser
    rwa [List.count, List.countP_map] at this
  refine ⟨fl.ticket, fl.engine, ?_, fl.caller, fl.total, fun t ht => ?_, Nat.le_of_eq hone, ?_⟩
  · exact f.upcoming_condition.trans fl.kind
  · exact (owns_target hr known ht).1
  · simp only [idle, List.countP_nil] at hcount
    simp only [Firing.launch, hone]
    omega

theorem Firing.Floods.call (fl : f.Floods s c ticket total (n.accepted s.id).length)
    (hr : Reachable n) (hu : u ∈ n.subscriptions) (lives : u.Lives s) (watched : c ∈ s.conditions)
    (turn : f.targets = target :: rest) (delivered : n.deliver? f target = some o) :
    { f with targets := rest }.Floods s c ticket total (o.accepted s.id).length ∧
      ∀ v ∈ o.accepted s.id, v ∈ n.accepted s.id ∨ v.condition = c := by
  obtain ⟨v, decoded, hv⟩ := Violation.ofResponse?_of_mask fl.kind
  have hsink := fl.sinks target (by simp [turn])
  have honce := fl.once
  have hcount := fl.count
  have hsinks : ∀ t ∈ rest, t.sink = .subscriptions := fun t ht => fl.sinks t (by simp [turn, ht])
  rw [turn, List.countP_cons] at honce hcount
  by_cases user : target.user = s.id
  · have attached : s.id ∈ n.registry := by
      rw [← lives.id]
      exact (hr.listed.attached u hu).mpr (lives.holds (hr.tidy u hu)).1
    have known : n.subscription? target.user = some u := by
      rw [user, ← lives.id]
      exact hr.numbered.subscription?_of_mem hu
    have hdelivered := deliver?_attached hsink decoded (user ▸ attached) known
      (by rw [hv, lives.conditions]; exact watched) delivered
    rw [fl.caller, if_neg Bool.false_ne_true, user] at hdelivered
    have ho : o = n.accept s.id v := hdelivered.2
    have haccepted : o.accepted s.id = n.accepted s.id ++ [v] := by
      rw [ho]
      simp [accept, accepted_note, Event.acceptedBy?]
    rw [haccepted]
    simp only [user, beq_self_eq_true, if_true] at honce hcount
    refine ⟨⟨fl.ticket, fl.engine, fl.kind, fl.caller, fl.total, hsinks, ?_, ?_⟩, ?_⟩
    · simp only
      omega
    · simp only [List.length_append, List.length_singleton]
      omega
    · intro w hw
      obtain hw | hw := List.mem_append.mp hw
      · exact .inl hw
      · rw [List.mem_singleton.mp hw]
        exact .inr hv
  · have haccepted : o.accepted s.id = n.accepted s.id := by
      rw [← lives.id]
      obtain same | ⟨-, -, -, huser, -⟩ := (deliver?_cases delivered).accepted_cases hr.numbered hu
      · exact same
      · exact absurd (huser.trans lives.id) user
    rw [haccepted]
    simp only [user, beq_iff_eq, if_false, Nat.add_zero] at honce hcount
    exact ⟨⟨fl.ticket, fl.engine, fl.kind, fl.caller, fl.total, hsinks, honce, hcount⟩,
      fun w hw => .inl hw⟩

end threads

namespace Monitor

variable {m m' n n' : Monitor} {s u : Subscription} {a : Action} {c : Condition} {ticket total : Nat}

inductive Flooding (s : Subscription) (ticket total : Nat) (c : Condition) (n : Monitor) : Prop
  | reporting (f : Firing) (others : List Firing) (firings : n.firings ~ f :: others)
      (floods : f.Floods s c ticket total (n.accepted s.id).length)
      (alone : ∀ g ∈ others, g.Bystander s ticket) (silent : n.fired? ticket = none)
      (kinds : ∀ v ∈ n.accepted s.id, v.condition = c)
  | reported (k : Nat) (fired : n.fired? ticket = some (total, k))
      (count : (n.accepted s.id).length = total) (alone : ∀ g ∈ n.firings, g.Bystander s ticket)
      (kinds : ∀ v ∈ n.accepted s.id, v.condition = c)

theorem turn_cases {P : Firing → Prop} {f g : Firing} {firings others rest : List Firing}
    (perm : firings ~ f :: others) (alone : ∀ h ∈ others, P h) (before : firings ~ g :: rest) :
    (g = f ∧ ∀ h ∈ rest, P h) ∨ ∃ zs, rest ~ f :: zs ∧ P g ∧ ∀ h ∈ zs, P h := by
  obtain ⟨rfl, hrest⟩ | ⟨zs, hrest, hothers⟩ := perm_cons_cases (before.symm.trans perm)
  · exact .inl ⟨rfl, fun h hh => alone h (hrest.mem_iff.mp hh)⟩
  · refine .inr ⟨zs, hrest, alone g (hothers.mem_iff.mpr List.mem_cons_self), fun h hh => ?_⟩
    exact alone h (hothers.mem_iff.mpr (List.mem_cons_of_mem _ hh))

theorem accepted_after_call {o : Monitor} {e : Nat} {target : Registration} {firings : List Firing}
    (h : n' = { o.note (.callback e target) with firings }) (id : Nat) :
    n'.accepted id = o.accepted id := by
  have hnote : (o.note (.callback e target)).accepted id = o.accepted id := by
    simp [accepted_note, Event.acceptedBy?]
  rw [h]
  exact hnote

theorem fired?_after_report (ticket : Nat) {f : Firing} {firings : List Firing}
    (h : n' = { n.note (.fired f.ticket f.total f.callbacks) with firings }) :
    n'.fired? ticket = if f.ticket = ticket then some (f.total, f.callbacks) else n.fired? ticket := by
  rw [h]
  simp only [fired?, note, List.findSome?_cons]
  split <;> simp_all

section flooding

variable (hr : Reachable n) (hu : u ∈ n.subscriptions) (lives : u.Lives s)
include hr hu lives

theorem Flooding.thread_act {f : Firing} {others : List Firing} (watched : c ∈ s.conditions)
    (ha : n.act? a = some n') (starts : ∀ g, a.thread? = some g → g.Bystander s ticket)
    (perm : n.firings ~ f :: others) (floods : f.Floods s c ticket total (n.accepted s.id).length)
    (alone : ∀ g ∈ others, g.Bystander s ticket) (silent : n.fired? ticket = none)
    (kinds : ∀ v ∈ n.accepted s.id, v.condition = c) : Flooding s ticket total c n' := by
  have hacc (hne : ∀ i, a ≠ .move (.callBack i)) : n'.accepted s.id = n.accepted s.id := by
    rw [← lives.id]
    exact accepted_of_step (hr.evolves ha) hu hne
  have hsilent (hne : ∀ i, a ≠ .move (.report i)) : n'.fired? ticket = none :=
    ((act?_frame ha).fired? hne ticket).trans silent
  have beside {g : Firing} {rest zs : List Firing} (after : n'.firings ~ g :: rest)
      (hrest : rest ~ f :: zs) : n'.firings ~ f :: g :: zs :=
    after.trans ((hrest.cons g).trans (List.Perm.swap f g zs))
  cases act?_threads ha with
  | kept quiet firings =>
    have hsame := hacc (by rintro i rfl; cases quiet)
    exact .reporting f others (firings ▸ perm) (hsame ▸ floods) alone
      (hsilent (by rintro i rfl; cases quiet)) (hsame ▸ kinds)
  | began g begins after =>
    have hsame := hacc (by rintro i rfl; cases begins)
    refine .reporting f (others ++ [g]) ?_ (hsame ▸ floods) ?_
      (hsilent (by rintro i rfl; cases begins)) (hsame ▸ kinds)
    · rw [after]
      exact perm.append_right [g]
    · intro h hh
      obtain hh | hh := List.mem_append.mp hh
      · exact alone h hh
      · exact List.mem_singleton.mp hh ▸ starts g begins
  | launched g rest before idle left firings after =>
    have hsame := hacc (by simp)
    obtain ⟨rfl, hrest⟩ | ⟨zs, hrest, hg, hzs⟩ := turn_cases perm alone before
    · exact .reporting _ rest firings (hsame ▸ floods.launch hr hu lives watched idle) hrest
        (hsilent (by simp)) (hsame ▸ kinds)
    · exact .reporting f _ (beside firings hrest) (hsame ▸ floods)
        (List.forall_mem_cons.mpr ⟨hg.launch hr hu lives left, hzs⟩) (hsilent (by simp))
        (hsame ▸ kinds)
  | called g rest target left o before turn delivered firings after =>
    have hcall := accepted_after_call after s.id
    obtain ⟨rfl, hrest⟩ | ⟨zs, hrest, hg, hzs⟩ := turn_cases perm alone before
    · obtain ⟨hfloods, hkinds⟩ := floods.call hr hu lives watched turn delivered
      refine .reporting _ rest firings (hcall ▸ hfloods) hrest (hsilent (by simp)) fun v hv => ?_
      obtain hold | hnew := hkinds v (hcall ▸ hv)
      · exact kinds v hold
      · exact hnew
    · have hsame := hcall.trans (hg.accepted_eq hr.numbered hu lives turn delivered)
      exact .reporting f _ (beside firings hrest) (hsame ▸ floods)
        (List.forall_mem_cons.mpr ⟨hg.call turn, hzs⟩) (hsilent (by simp)) (hsame ▸ kinds)
  | reported g rest before idle done firings after =>
    have hsame := hacc (by simp)
    have hreport := fired?_after_report ticket after
    obtain ⟨rfl, hrest⟩ | ⟨zs, hrest, hg, hzs⟩ := turn_cases perm alone before
    · have hcount := floods.count
      rw [idle, List.countP_nil, Nat.add_zero, done, floods.total] at hcount
      rw [if_pos floods.ticket, floods.total] at hreport
      exact .reported _ hreport (hsame ▸ hcount)
        (fun h hh => hrest h (firings.mem_iff.mp hh)) (hsame ▸ kinds)
    · rw [if_neg hg.ticket] at hreport
      exact .reporting f zs (firings.trans hrest) (hsame ▸ floods) hzs (hreport.trans silent)
        (hsame ▸ kinds)

theorem Flooding.act (fl : Flooding s ticket total c n) (watched : c ∈ s.conditions)
    (ha : n.act? a = some n') (starts : ∀ g, a.thread? = some g → g.Bystander s ticket) :
    Flooding s ticket total c n' := by
  cases fl with
  | reporting f others perm floods alone silent kinds =>
    exact Flooding.thread_act hr hu lives watched ha starts perm floods alone silent kinds
  | reported k fired count alone kinds =>
    have hall : ∀ g ∈ n'.firings, g.Bystander s ticket :=
      (act?_threads ha).all alone starts (fun g hg left => hg.launch hr hu lives left)
        fun g target rest hg turn => hg.call turn
    have hacc (hne : ∀ i, a ≠ .move (.callBack i)) : n'.accepted s.id = n.accepted s.id := by
      rw [← lives.id]
      exact accepted_of_step (hr.evolves ha) hu hne
    have hfired (hne : ∀ i, a ≠ .move (.report i)) : n'.fired? ticket = n.fired? ticket :=
      (act?_frame ha).fired? hne ticket
    obtain ⟨hsame, hstill⟩ : n'.accepted s.id = n.accepted s.id ∧
        n'.fired? ticket = n.fired? ticket := by
      cases act?_threads ha with
      | kept quiet =>
        exact ⟨hacc (by rintro i rfl; cases quiet), hfired (by rintro i rfl; cases quiet)⟩
      | began g begins =>
        exact ⟨hacc (by rintro i rfl; cases begins), hfired (by rintro i rfl; cases begins)⟩
      | launched => exact ⟨hacc (by simp), hfired (by simp)⟩
      | called g rest target left o before turn delivered firings after =>
        have hg := alone g (before.mem_iff.mpr List.mem_cons_self)
        exact ⟨(accepted_after_call after s.id).trans
          (hg.accepted_eq hr.numbered hu lives turn delivered), hfired (by simp)⟩
      | reported g rest before idle done firings after =>
        have hg := alone g (before.mem_iff.mpr List.mem_cons_self)
        exact ⟨hacc (by simp), (fired?_after_report ticket after).trans (if_neg hg.ticket)⟩
    exact .reported k (hstill.trans fired) (hsame ▸ count) hall (hsame ▸ kinds)

end flooding

/-- A thread of the engine of `s` reports `total` occurrences of one condition, one after the other. `s`
has accepted nothing before, nothing else comes its way, nobody reads it and it is not cancelled; in the
end, in `m'`, no move is left, and the thread does not wait for anybody else. -/
structure Flood (m : Monitor) (s : Subscription) (c : Condition) (ticket total : Nat) (r : Response)
    (as : List Action) (m' : Monitor) : Prop where
  watched : c ∈ s.conditions
  kind : r.condition = c.mask
  fresh : m.accepted s.id = []
  unused : m.fired? ticket = none
  before : ∀ f ∈ m.firings, f.Bystander s ticket
  run : m.run? (.fire ticket s.key.engine r total false :: as) = some m'
  alone : ∀ a ∈ as, ∀ f, a.thread? = some f → f.Bystander s ticket
  unread : ∀ a ∈ as, a ≠ .receive s.id
  live : ∀ t ∈ m'.subscriptions, t.id = s.id → t.scope.fired = false
  quiet : m'.Quiet
  elsewhere : ∀ f ∈ m'.firings, f.ticket = ticket →
    ∀ t ∈ m'.subscriptions, ∀ v, WaitsFor m' f t v → t.id = s.id

theorem Reachable.lives {as : List Action} (h : Reachable m) (hu : u ∈ m.subscriptions)
    (id : u.id = s.id) (key : u.key = s.key) (conditions : u.conditions = s.conditions)
    (run : m.run? as = some m')
    (live : ∀ t ∈ m'.subscriptions, t.id = s.id → t.scope.fired = false) : u.Lives s := by
  refine ⟨id, key, conditions, Bool.eq_false_iff.mpr fun fired => ?_⟩
  obtain ⟨t, ht, hid, hfired⟩ := h.stays_fired hu fired run
  simp [live t ht (hid.trans id)] at hfired

theorem flooding_of_run {as : List Action} (hr : Reachable n) (hu : u ∈ n.subscriptions)
    (id : u.id = s.id) (key : u.key = s.key) (conditions : u.conditions = s.conditions)
    (fl : Flooding s ticket total c n) (unread : n.yielded s.id = [])
    (watched : c ∈ s.conditions) (run : n.run? as = some m')
    (alone : ∀ a ∈ as, ∀ f, a.thread? = some f → f.Bystander s ticket)
    (reads : ∀ a ∈ as, a ≠ .receive s.id)
    (live : ∀ t ∈ m'.subscriptions, t.id = s.id → t.scope.fired = false) :
    Flooding s ticket total c m' ∧ m'.yielded s.id = [] ∧ ∃ t ∈ m'.subscriptions, t.Lives s := by
  induction as generalizing n u with
  | nil =>
    cases run
    exact ⟨fl, unread, u, hu, hr.lives hu id key conditions (run?_nil _) live⟩
  | cons a as ih =>
    have lives := hr.lives hu id key conditions run live
    rw [run?_cons, Option.bind_eq_some_iff] at run
    obtain ⟨o, ha, hrest⟩ := run
    have ev := hr.evolves ha
    obtain ⟨t, ht, acc, out, step, -, -⟩ := ev.successor hu
    have hunread : o.yielded s.id = [] := by
      rw [← unread, ← id]
      exact ev.yielded_eq (id ▸ reads a List.mem_cons_self)
    exact ih (hr.act ha) ht (step.id_eq.trans id) (step.key_eq.trans key)
      (step.conditions_eq.trans conditions)
      (fl.act hr hu lives watched ha (alone a List.mem_cons_self)) hunread hrest
      (fun b hb => alone b (List.mem_cons_of_mem _ hb))
      (fun b hb => reads b (List.mem_cons_of_mem _ hb))

theorem accepted_le_of_kind {A : List Violation} (p : u.Passes A []) (b : u.Bounded)
    (live : u.scope.fired = false) (kinds : ∀ v ∈ A, v.condition = c) :
    A.length ≤ Limits.outputCapacity + 1 + Limits.slotCapacity := by
  have hall : ofKind c A = A := List.filter_eq_self.mpr fun v hv => by simp [kinds v hv]
  have hkept := congrArg List.length (p.kept live c)
  have hout : (ofKind c u.output).length ≤ u.output.length := List.length_filter_le ..
  have hhand : (ofKind c u.hand.toList).length ≤ u.hand.toList.length := List.length_filter_le ..
  have hone := u.hand_length_le
  have hslot := b.slot c
  have houtput := b.output
  simp only [hall, List.length_append, ofKind_nil, List.length_nil] at hkept
  omega

theorem Flooding.completions_eq (fl : Flooding s ticket total c n) (hr : Reachable n) (q : n.Quiet)
    (hu : u ∈ n.subscriptions) (lives : u.Lives s) (unread : n.yielded s.id = [])
    (elsewhere : ∀ f ∈ n.firings, f.ticket = ticket →
      ∀ t ∈ n.subscriptions, ∀ v, WaitsFor n f t v → t.id = s.id) :
    n.completions ticket = min total 34 := by
  have passes := hr.passes u hu
  rw [lives.id, unread] at passes
  have bounded := hr.bounded u hu
  have hmost {A : List Violation} (p : u.Passes A []) (kinds : ∀ v ∈ A, v.condition = c) :
      A.length ≤ 34 := accepted_le_of_kind p bounded lives.live kinds
  cases fl with
  | reported k fired count alone kinds =>
    have hle := hmost passes kinds
    simp only [completions, fired, Option.map_some, Option.getD_some]
    omega
  | reporting f others perm floods alone silent kinds =>
    have hf : f ∈ n.firings := perm.mem_iff.mpr List.mem_cons_self
    obtain ⟨t, ht, v, waits⟩ := q.waits hr hf
    have hid := elsewhere f hf floods.ticket t ht v waits
    obtain rfl := hr.numbered.eq_of_id ht hu (hid.trans lives.id.symm)
    -- every stage is full, so 34 have been accepted, and one more is launched
    have hle := hmost passes kinds
    have hlength := passes.length_eq lives.live
    have hslot := t.slot_le_inSlots v.condition
    have hhand : t.hand.toList.length = 1 := by
      obtain ⟨w, hw⟩ := Option.isSome_iff_exists.mp waits.hand
      simp [hw]
    have hfull : (n.accepted s.id).length = 34 := by
      rw [waits.slot] at hslot
      rw [Subscription.unread, hhand, waits.output, List.length_nil] at hlength
      omega
    obtain ⟨target, rest, turn, user⟩ := waits.next
    have hone : f.targets.countP (·.user == s.id) = 1 := by
      have honce := floods.once
      rw [turn, List.countP_cons, user, lives.id, beq_self_eq_true, if_pos rfl] at honce ⊢
      omega
    have hlaunched := floods.count
    rw [hfull, hone] at hlaunched
    have htotal := hr.launched_le f hf
    rw [floods.total] at htotal
    have hcompleted : n.completed ticket = 34 := by
      rw [← floods.ticket, completed_of_perm perm fun g hg => by
        rw [floods.ticket]; exact (alone g hg).ticket]
      simp [Firing.completed, turn, ← hlaunched]
    simp only [completions, silent, Option.map_none, Option.getD_none, hcompleted]
    omega

theorem Flood.completions_eq {as : List Action} {r : Response} (fl : Flood m s c ticket total r as m')
    (h : Reachable m) (hs : s ∈ m.subscriptions) : m'.completions ticket = min total 34 := by
  have hrun := fl.run
  rw [run?_cons, Option.bind_eq_some_iff] at hrun
  obtain ⟨n, ha, hrest⟩ := hrun
  have hn : n = m.fire ticket s.key.engine r total false := (Option.some.inj ha).symm
  have hstart : Flooding s ticket total c n := by
    have hfresh : n.accepted s.id = [] := by rw [hn]; exact fl.fresh
    refine .reporting
      { ticket, engine := s.key.engine, response := r, total, onExecutor := false } m.firings ?_ ?_
      fl.before (by rw [hn]; exact fl.unused) (by simp [hfresh])
    · rw [hn]
      exact List.perm_append_singleton _ _
    · exact ⟨rfl, rfl, fl.kind, rfl, rfl, by simp, by simp, by simp [hfresh]⟩
  have hunread : n.yielded s.id = [] := by
    have hfirst := (h.passes s hs).inOrder
    have hnone : m.yielded s.id = [] := by
      apply List.eq_nil_iff_forall_not_mem.mpr
      intro v hv
      have hmem : v ∈ ofKind v.condition (m.yielded s.id) := List.mem_filter.mpr ⟨hv, by simp⟩
      have := (hfirst v.condition).subset hmem
      simp [fl.fresh] at this
    rw [hn]
    exact hnone
  have hr := h.act ha
  have hs' : s ∈ n.subscriptions := by rw [hn]; exact hs
  obtain ⟨hend, hunread', t, ht, lives⟩ := flooding_of_run hr hs' rfl rfl rfl hstart hunread
    fl.watched hrest fl.alone fl.unread fl.live
  exact hend.completions_eq (hr.run hrest) fl.quiet ht lives hunread' fl.elsewhere

/-- In every state and for every subscription: each slot has at most one occurrence, the output at most
32 and the hand one, so at most 33 and one for each condition have been accepted and not been read. A
callback waits just when the subscription is attached and the slot of its own condition is occupied. And
of the occurrences that flood a subscription which nobody reads, exactly the first 34 get through. -/
theorem buffering_is_bounded (h : Reachable m) (hs : s ∈ m.subscriptions) :
    ((∀ c, (s.slots c).length ≤ 1) ∧ s.hand.toList.length ≤ 1 ∧ s.output.length ≤ 32 ∧
      s.unread ≤ 33 + s.conditions.length ∧
      (s.scope.fired = false →
        (m.accepted s.id).length = (m.yielded s.id).length + s.unread)) ∧
    (∀ i f target rest v, m.firings[i]? = some f → f.targets = target :: rest →
      target.sink = .subscriptions → target.user = s.id →
      Violation.ofResponse? f.response = some v →
      (m.callBack? i = none ↔ f.onExecutor = false ∧ s.id ∈ m.registry ∧
        v.condition ∈ s.conditions ∧ s.slots v.condition ≠ [])) ∧
    ∀ c ticket total r as m', Flood m s c ticket total r as m' →
      m'.completions ticket = min total 34 := by
  have bounded := h.bounded s hs
  refine ⟨⟨bounded.slot, s.hand_length_le, bounded.output, bounded.unread_le,
    (h.passes s hs).length_eq⟩, ?_, fun c ticket total r as m' fl => fl.completions_eq h hs⟩
  intro i f target rest v hf turn sink user decoded
  rw [callBack?_eq_none_iff hf turn, deliver?_eq_none_iff h.numbered hs sink user decoded]
  have hfull : Limits.slotCapacity ≤ (s.slots v.condition).length ↔ s.slots v.condition ≠ [] :=
    List.length_pos_iff
  rw [hfull]

def audience : List Action :=
  [.addEngine, .activate 0, .addToken none,
    .ask 0 { conditions := [.thermal, .xid], token := 0 }, .move (.enter 0), .move (.start 1),
    .ask 1 { conditions := [.power], token := 0 }, .move (.enter 0), .move (.start 2)]

def rush : List Move :=
  (List.replicate 32 [.launch 0, .callBack 0, .take 1 .thermal, .send 1]).flatten ++
  [.launch 0, .callBack 0, .take 1 .thermal, .launch 0, .callBack 0, .launch 0]

theorem rush_stops_after_34 : ∃ m s m', run? {} audience = some m ∧ s ∈ m.subscriptions ∧
    Flood m s .thermal 7 40 (.report .thermal 0 90 0) (rush.map .move) m' ∧
    m'.completions 7 = min 40 34 := by
  let m := (run? {} audience).get (by decide +kernel)
  have hm : run? {} audience = some m := by simp [m]
  obtain ⟨s, hs, hid, hengine, hconditions⟩ : ∃ s ∈ m.subscriptions, s.id = 1 ∧ s.key.engine = 0 ∧
      s.conditions = [.thermal, .xid] := by decide +kernel
  let as : List Action := .fire 7 0 (.report .thermal 0 90 0) 40 false :: rush.map .move
  let m' := (m.run? as).get (by decide +kernel)
  have hm' : m.run? as = some m' := by simp [m']
  have hmove (a : Action) (ha : a ∈ rush.map Action.move) : ∃ mv, a = .move mv := by
    obtain ⟨mv, -, rfl⟩ := List.mem_map.mp ha
    exact ⟨mv, rfl⟩
  have hflood : Flood m s .thermal 7 40 (.report .thermal 0 90 0) (rush.map .move) m' := by
    refine ⟨by simp [hconditions], rfl, ?_, by decide +kernel, ?_, hengine ▸ hm', ?_, ?_, ?_,
      next?_eq_none_iff.mp (Option.isNone_iff_eq_none.mp (by decide +kernel)), ?_⟩
    · rw [hid]
      decide +kernel
    · have hnone : m.firings.length = 0 := by decide +kernel
      simp [List.eq_nil_of_length_eq_zero hnone]
    · intro a ha f hf
      obtain ⟨mv, rfl⟩ := hmove a ha
      cases hf
    · rintro a ha rfl
      obtain ⟨mv, hmv⟩ := hmove _ ha
      cases hmv
    · have hlive : ∀ t ∈ m'.subscriptions, t.scope.fired = false := by decide +kernel
      exact fun t ht _ => hlive t ht
    · have husers : ∀ f ∈ m'.firings, f.targets.map (·.user) = [1] := by decide +kernel
      intro f hf _ t _ v waits
      obtain ⟨target, rest, turn, user⟩ := waits.next
      have hone := husers f hf
      rw [turn, List.map_cons, List.cons.injEq] at hone
      rw [hid, ← user, hone.1]
  exact ⟨m, s, m', hm, hs, hflood, (buffering_is_bounded ⟨audience, hm⟩ hs).2.2 _ _ _ _ _ _ hflood⟩

end Monitor

end GpuTelemetry
