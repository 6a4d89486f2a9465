import GpuTelemetry.Proofs.FanOut
import Mathlib.Data.List.Perm.Basic

namespace GpuTelemetry

open scoped List

def Action.thread? : Action → Option Firing
  | .fire ticket e r total onExecutor =>
    some { ticket, engine := e, response := r, total, onExecutor }
  | .fireAt ticket e r user =>
    some { ticket, engine := e, response := r.getD {}, total := 0,
           targets := (r.map fun r => { group := 0, mask := r.condition, user }).toList }
  | _ => none

namespace Monitor

variable {m m' n : Monitor} {a : Action} {i : Nat}

inductive Threads (m : Monitor) : Action → Monitor → Prop
  | kept {a : Action} {m' : Monitor} (quiet : a.fires = false) (firings : m'.firings = m.firings) :
      Threads m a m'
  | began {a : Action} {m' : Monitor} (f : Firing) (starts : a.thread? = some f)
      (after : m' = { m with firings := m.firings ++ [f] }) : Threads m a m'
  | launched {i : Nat} {m' : Monitor} (f : Firing) (others : List Firing)
      (before : m.firings ~ f :: others) (idle : f.targets = []) (left : f.launched < f.total)
      (firings : m'.firings ~
        f.launch ((m.engines f.engine).sim.targets f.upcoming.condition) :: others)
      (after : m' = { m with firings := m'.firings }) : Threads m (.move (.launch i)) m'
  | called {i : Nat} {m' : Monitor} (f : Firing) (others : List Firing) (target : Registration)
      (rest : List Registration) (n : Monitor) (before : m.firings ~ f :: others)
      (turn : f.targets = target :: rest) (delivered : m.deliver? f target = some n)
      (firings : m'.firings ~ { f with targets := rest } :: others)
      (after : m' = { n.note (.callback f.engine target) with firings := m'.firings }) :
      Threads m (.move (.callBack i)) m'
  | reported {i : Nat} {m' : Monitor} (f : Firing) (others : List Firing)
      (before : m.firings ~ f :: others) (idle : f.targets = []) (done : f.launched = f.total)
      (firings : m'.firings ~ others)
      (after : m' = { m.note (.fired f.ticket f.total f.callbacks) with firings := m'.firings }) :
      Threads m (.move (.report i)) m'

theorem perm_of_getElem? {β : Type} {l : List β} {x : β} (h : l[i]? = some x) :
    l ~ x :: l.eraseIdx i := by
  obtain ⟨hlt, rfl⟩ := List.getElem?_eq_some_iff.mp h
  exact (List.getElem_cons_eraseIdx_perm hlt).symm

theorem act?_threads (h : m.act? a = some m') : Threads m a m' := by
  cases a with
  | fire ticket e r total onExecutor =>
    cases h
    exact .began _ rfl rfl
  | fireAt ticket e r user =>
    cases h
    refine .began _ rfl ?_
    cases r <;> rfl
  | move mv =>
    cases mv with
    | launch i =>
      obtain ⟨f, hf, idle, left, rfl⟩ := launch?_next h
      have hlt := (List.getElem?_eq_some_iff.mp hf).1
      exact .launched f _ (perm_of_getElem? hf) idle left (List.set_perm_cons_eraseIdx hlt _) rfl
    | callBack i =>
      obtain ⟨f, target, rest, n, hf, turn, delivered, rfl⟩ := callBack?_next h
      rw [(deliver?_cases delivered).firings]
      exact .called f _ target rest n (perm_of_getElem? hf) turn delivered
        (List.perm_append_singleton _ _) rfl
    | report i =>
      obtain ⟨f, hf, idle, done, rfl⟩ := report?_cases h
      exact .reported f _ (perm_of_getElem? hf) idle done (List.Perm.refl _) rfl
    | _ => exact .kept rfl ((act?_frame h).firings rfl)
  | _ => exact .kept rfl ((act?_frame h).firings rfl)

theorem Threads.all {P : Firing → Prop} (h : Threads m a m') (old : ∀ f ∈ m.firings, P f)
    (starts : ∀ f, a.thread? = some f → P f)
    (launches : ∀ f, P f → f.launched < f.total →
      P (f.launch ((m.engines f.engine).sim.targets f.upcoming.condition)))
    (calls : ∀ f target rest, P f → f.targets = target :: rest → P { f with targets := rest }) :
    ∀ f ∈ m'.firings, P f := by
  have split {f : Firing} {others : List Firing} (before : m.firings ~ f :: others) :
      P f ∧ ∀ g ∈ others, P g :=
    ⟨old f (before.mem_iff.mpr List.mem_cons_self),
      fun g hg => old g (before.mem_iff.mpr (List.mem_cons_of_mem _ hg))⟩
  intro g hg
  cases h with
  | kept quiet firings => exact old g (firings ▸ hg)
  | began f begins after =>
    rw [after] at hg
    obtain hg | hg := List.mem_append.mp hg
    · exact old g hg
    · rw [List.mem_singleton.mp hg]
      exact starts f begins
  | launched f others before idle left firings after =>
    obtain rfl | hg := List.mem_cons.mp (firings.mem_iff.mp hg)
    · exact launches f (split before).1 left
    · exact (split before).2 g hg
  | called f others target rest n before turn delivered firings after =>
    obtain rfl | hg := List.mem_cons.mp (firings.mem_iff.mp hg)
    · exact calls f target rest (split before).1 turn
    · exact (split before).2 g hg
  | reported f others before idle done firings after =>
    exact (split before).2 g (firings.mem_iff.mp hg)

theorem Reachable.launched_le (h : Reachable m) : ∀ f ∈ m.firings, f.launched ≤ f.total := by
  apply h.induction (P := fun m => ∀ f ∈ m.firings, f.launched ≤ f.total) (by simp)
  intro m a m' _ ih ha
  refine (act?_threads ha).all ih (fun f starts => ?_) (fun f _ left => left)
    fun f target rest hle _ => hle
  cases a with
  | fire | fireAt =>
    cases starts
    exact Nat.zero_le _
  | _ => cases starts

section registrations

def SameRegistrations (m m' : Monitor) : Prop := ∀ e, m'.registrations e = m.registrations e

theorem SameRegistrations.trans {m n o : Monitor} (h : SameRegistrations m n)
    (h' : SameRegistrations n o) : SameRegistrations m o :=
  fun e => (h' e).trans (h e)

theorem sameRegistrations_adjust (m : Monitor) (e : Nat) (f : Engine → Engine)
    (h : (f (m.engines e)).sim.registrations = (m.engines e).sim.registrations) :
    SameRegistrations m (m.adjust e f) := by
  intro k
  by_cases hk : k = e
  · simp [registrations, adjust, hk, h]
  · simp [registrations, adjust, hk]

theorem sameRegistrations_reap (m : Monitor) (e : Nat) : SameRegistrations m (m.reap e) := by
  refine sameRegistrations_adjust m e (fun _ =>
    (if m.isReferenced e then (m.engines e, []) else (m.engines e).giveBack).1) ?_
  split
  · rfl
  · simp [Engine.giveBack_sim]

theorem registrations_call {α : Type} (m : Monitor) (e k : Nat) (what : EngineCall)
    (answer : α → Option Status) (act : Engine → α × Engine × List Native.Call) :
    (m.call e what answer act).2.registrations k =
      if k = e then (act (m.engines e)).2.1.sim.registrations else m.registrations k := by
  by_cases hk : k = e
  · simp [registrations, call, noteNative, adjust, note, hk]
  · simp [registrations, call, noteNative, adjust, note, hk]

theorem sameRegistrations_call {α : Type} (m : Monitor) (e : Nat) (what : EngineCall)
    (answer : α → Option Status) (act : Engine → α × Engine × List Native.Call)
    (h : (m.engines e).SamePolicies (act (m.engines e)).2.1) :
    SameRegistrations m (m.call e what answer act).2 := by
  intro k
  rw [registrations_call]
  split
  · rename_i hk
    rw [hk]
    exact h.2
  · rfl

theorem sameRegistrations_reapPrevious (m : Monitor) (previous : Option Nat) :
    SameRegistrations m (m.reapPrevious previous) := by
  cases previous with
  | none => exact fun _ => rfl
  | some e => exact sameRegistrations_reap m e

theorem sameRegistrations_askPolicy (m : Monitor) (r : Request) :
    SameRegistrations m (m.askPolicy r).2 := by
  intro k
  obtain ⟨-, same⟩ | ⟨-, -, same⟩ :=
    (m.engines r.key.engine).setPolicy_cases r.key.group (m.policyFor r)
  · refine sameRegistrations_call m _ _ _ _ ?_ k
    rw [same]
    exact .refl _
  · refine (registrations_call m _ _ _ _ _).trans ?_
    split
    · rename_i hk
      rw [hk]
      exact same
    · rfl

theorem sameRegistrations_fail (m : Monitor) (r : Request) (f : Failure) :
    SameRegistrations m (m.fail r f) :=
  sameRegistrations_reap (m.note (.subscribed r.ticket (.error f))) r.key.engine

theorem enrol_registers (m : Monitor) (r : Request) (e : Nat) : Registers m e (m.enrol r) := by
  have hpolicy := sameRegistrations_askPolicy m r e
  have hend := enrol_cases m r
  generalize m.enrol r = m' at hend
  cases hend with
  | policyRefused refused => exact .same ((sameRegistrations_fail _ _ _ e).trans hpolicy)
  | registrationRefused o ho accepted refused =>
    obtain ⟨-, same⟩ | ⟨ok, -⟩ := (o.engines r.key.engine).register_cases r.key.group
      (Condition.maskOf r.conditions) (o.lastId + 1)
    · have hasked : SameRegistrations o (o.askRegistration r).2 := by
        refine sameRegistrations_call
          { o with lastId := o.lastId + 1, registry := (o.lastId + 1) :: o.registry } _ _ _ _ ?_
        change (o.engines r.key.engine).SamePolicies _
        rw [same]
        exact .refl _
      subst ho
      exact .same ((sameRegistrations_fail _ _ _ e).trans ((hasked e).trans hpolicy))
    · exact absurd ok (Bool.eq_false_iff.mp refused)
  | joined o ho accepted registered =>
    obtain ⟨bad, -⟩ | ⟨-, -, added⟩ := (o.engines r.key.engine).register_cases r.key.group
      (Condition.maskOf r.conditions) (o.lastId + 1)
    · exact absurd registered (Bool.eq_false_iff.mp bad)
    · have hjoined := registrations_call
        { o with lastId := o.lastId + 1, registry := (o.lastId + 1) :: o.registry }
        r.key.engine e (.register r.key.group (Condition.maskOf r.conditions) (o.lastId + 1)) some
        (·.register r.key.group (Condition.maskOf r.conditions) (o.lastId + 1))
      subst ho
      by_cases he : e = r.key.engine
      · refine .joined r he (hjoined.trans ?_) rfl
        rw [if_pos he, ← hpolicy, he]
        exact added
      · refine .same (hjoined.trans ?_)
        rw [if_neg he]
        exact hpolicy

theorem afterUnregister_registrations (m : Monitor) (key : GroupKey) (mask : UInt32) (e : Nat) :
    (m.afterUnregister key mask).registrations e = m.registrations e ∨
      (m.afterUnregister key mask).registrations e =
        remaining (m.registrations e) key.group mask := by
  obtain ⟨-, same⟩ | ⟨-, -, cleared⟩ :=
    (m.engines key.engine).unregister_cases key.group mask
  · exact .inl (sameRegistrations_call m _ _ _ _ same e)
  · have hcall := registrations_call m key.engine e (.unregister key.group mask)
      (fun answer => answer) (·.unregister key.group mask)
    by_cases he : e = key.engine
    · refine .inr (hcall.trans ?_)
      rw [if_pos he, he]
      exact cleared
    · refine .inl (hcall.trans ?_)
      rw [if_neg he]

theorem move?_registers {mv : Move} (h : m.move? mv = some m') (e : Nat) : Registers m e m' := by
  cases mv with
  | enter i =>
    obtain ⟨r, -, -, rfl⟩ := enter?_cases h
    cases enrol_registers { m with requests := m.requests.eraseIdx i } r e with
    | same same => exact .same same
    | joined q engine added list => exact .joined q engine added list
    | cleared group mask cleared => exact .cleared group mask cleared
  | start =>
    obtain ⟨s, -, -, -, rfl⟩ := start?_cases h
    exact .same rfl
  | take =>
    obtain ⟨s, -, -, v, rest, -, -, -, rfl⟩ := take?_cases h
    exact .same rfl
  | send =>
    obtain ⟨s, -, -, v, -, -, -, rfl⟩ := send?_cases h
    exact .same rfl
  | leave =>
    obtain ⟨s, -, -, -, -, rfl⟩ := leave?_cases h
    exact .same rfl
  | detach =>
    obtain ⟨s, -, -, -, rfl⟩ := detach?_cases h
    exact .same rfl
  | release =>
    obtain ⟨s, -, -, -, -, mask, -, ⟨-, rfl⟩ | ⟨-, rfl⟩⟩ := release?_cases h
    · exact .same (sameRegistrations_reap _ _ e)
    · exact .same rfl
  | unregister id =>
    obtain ⟨s, -, -, mask, -, -, rfl⟩ := unregister?_cases h
    have hreap := sameRegistrations_reap ((m.afterUnregister s.key mask).update id fun s =>
      { s with phase := .released }) s.key.engine e
    obtain same | cleared := afterUnregister_registrations m s.key mask e
    · exact .same (hreap.trans same)
    · exact .cleared s.key.group mask (hreap.trans cleared)
  | close =>
    obtain ⟨s, -, -, -, rfl⟩ := close?_cases h
    exact .same rfl
  | finish =>
    obtain ⟨s, -, -, -, rfl⟩ := finish?_cases h
    exact .same rfl
  | launch =>
    obtain ⟨f, -, -, -, firings, rfl⟩ := launch?_cases h
    exact .same rfl
  | callBack =>
    obtain ⟨f, target, rest, n, -, -, hd, rfl⟩ := callBack?_cases h
    cases hd <;> exact .same rfl
  | report =>
    obtain ⟨f, -, -, -, rfl⟩ := report?_cases h
    exact .same rfl

def Unused (m : Monitor) : Prop := ∀ e, m.engineCount ≤ e → m.registrations e = []

theorem Unused.of_same (u : m.Unused) (count : m'.engineCount = m.engineCount)
    (same : SameRegistrations m m') : m'.Unused :=
  fun e he => (same e).trans (u e (count ▸ he))

theorem Unused.addEngine (u : m.Unused) (engine : Engine) : (m.addEngine engine).Unused := by
  intro e he
  have hlt : m.engineCount < e := he
  have hnew : e ≠ m.engineCount := Nat.ne_of_gt hlt
  have hold := u e (Nat.le_of_lt hlt)
  simpa [registrations, Monitor.addEngine, hnew] using hold

theorem Unused.adopt (u : m.Unused) (x : Except Failure Native.Connection × List Native.Call) :
    (m.adopt x).2.Unused := by
  obtain ⟨f | c, calls⟩ := x
  · exact u
  · exact u.addEngine _

theorem Unused.collect (u : m.Unused) (engine : Option Nat) (q : History.Query)
    (script : Option History.Reply) : (m.collect engine q script).2.Unused := by
  unfold Monitor.collect
  split
  · exact u
  · rename_i e _
    have hasked : SameRegistrations m (m.askHistory e q script).2 := by
      apply sameRegistrations_call m e
      cases script with
      | none => exact Engine.history_samePolicies _ q
      | some reply => exact .refl _
    exact u.of_same rfl hasked

theorem Unused.snapshot (u : m.Unused) (engine : Option Nat) (entities : List Entity)
    (fields : List UInt16) (flags : UInt32) (script : Option (Array EntityRecord → Snapshot.Answer)) :
    (m.snapshot engine entities fields flags script).2.Unused := by
  unfold Monitor.snapshot
  split
  · exact u
  · split
    · exact u
    · rename_i e _ _ k _
      have hasked : SameRegistrations m ({ m with reserve := (m.reserve.lend k).2 }.askSnapshot e
          (entities.map Entity.codes) fields flags (m.reserve.lend k).1.slots script).2 := by
        apply sameRegistrations_call { m with reserve := (m.reserve.lend k).2 } e
        cases script with
        | none => exact Engine.snapshot_samePolicies _ _ _ _ _
        | some answer => exact .refl _
      exact u.of_same rfl hasked

theorem Unused.move (u : m.Unused) (hr : Reachable m') {mv : Move} (h : m.move? mv = some m') :
    m'.Unused := by
  intro e he
  have hnone := u e ((move?_sameCallers h).engineCount ▸ he)
  cases move?_registers h e with
  | same registrations => exact registrations.trans hnone
  | joined r engine registrations list =>
    have hmem : r.subscription (m.lastId + 1) (m.scopeOf r.token) ∈ m'.subscriptions := by
      simp [list]
    have hlt := (hr.wellFormed _ hmem).engine
    rw [engine] at he
    exact absurd hlt (Nat.not_lt_of_le he)
  | cleared group mask registrations => simp [registrations, hnone, remaining]

theorem Reachable.unused (h : Reachable m) : m.Unused := by
  apply h.induction (P := Unused) fun _ _ => rfl
  intro m a m' hr u ha
  cases a with
  | addEngine =>
    cases ha
    exact u.addEngine {}
  | openAt | openAny =>
    cases ha
    exact u.adopt _
  | set e s =>
    cases ha
    exact u.of_same rfl (sameRegistrations_adjust m e _ (setting_samePolicies s _).2)
  | errorString e code =>
    cases ha
    unfold errorString
    split <;> exact u
  | activate e =>
    simp only [act?] at ha
    split at ha
    · cases ha
      have same := sameRegistrations_reapPrevious { m with active := some e } m.active
      exact u.of_same (sameCallers_reapPrevious _ m.active).engineCount same
    · cases ha
  | deactivate =>
    cases ha
    have same := sameRegistrations_reapPrevious { m with active := none } m.active
    exact u.of_same (sameCallers_reapPrevious _ m.active).engineCount same
  | disown e =>
    simp only [act?] at ha
    split at ha
    · cases ha
      have given := sameRegistrations_adjust m e (fun g => { g with owned := false }) rfl
      exact u.of_same rfl (given.trans (sameRegistrations_reap _ e))
    · cases ha
  | ask ticket w =>
    cases ha
    unfold ask
    split <;> exact u
  | addToken | cancelToken | cancel | dropReader | fire | fireAt =>
    cases ha
    exact u
  | receive id =>
    cases ha
    unfold receive receiveNone
    split
    · exact u
    · split
      · split <;> exact u
      · split
        · exact u
        · split <;> exact u
  | collect engine q script =>
    cases ha
    exact u.collect engine q script
  | snapshot engine entities fields flags script =>
    cases ha
    exact u.snapshot engine entities fields flags script
  | move mv => exact u.move (hr.act ha) ha

end registrations

end Monitor

end GpuTelemetry
