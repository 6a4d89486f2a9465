import GpuTelemetry.Proofs.EngineCalls
import GpuTelemetry.Proofs.Moves
import GpuTelemetry.Proofs.Runs

namespace GpuTelemetry

namespace Monitor

def policy (m : Monitor) (key : GroupKey) : Option Policy :=
  (m.engines key.engine).sim.policies key.group

def registrations (m : Monitor) (e : Nat) : List Registration := (m.engines e).sim.registrations

def SameEngines (m m' : Monitor) : Prop :=
  ∀ e < m.engineCount, (m.engines e).SamePolicies (m'.engines e)

theorem SameEngines.refl (m : Monitor) : SameEngines m m := fun _ _ => .refl _

theorem SameEngines.trans {m n o : Monitor} (h : SameEngines m n)
    (hc : n.engineCount = m.engineCount) (h' : SameEngines n o) : SameEngines m o := by
  intro e he
  have hn := h e he
  have ho := h' e (hc ▸ he)
  exact ⟨ho.1.trans hn.1, ho.2.trans hn.2⟩

theorem SameEngines.policy {m m' : Monitor} (h : SameEngines m m') {key : GroupKey}
    (hk : key.engine < m.engineCount) : m'.policy key = m.policy key :=
  congrFun (h key.engine hk).1 key.group

theorem SameEngines.registrations {m m' : Monitor} (h : SameEngines m m') {e : Nat}
    (he : e < m.engineCount) : m'.registrations e = m.registrations e := (h e he).2

theorem sameEngines_adjust (m : Monitor) (e : Nat) (f : Engine → Engine)
    (h : (m.engines e).SamePolicies (f (m.engines e))) : SameEngines m (m.adjust e f) := by
  intro k _
  by_cases hk : k = e
  · subst hk
    simpa [adjust] using h
  · simpa [adjust, hk] using Engine.SamePolicies.refl _

theorem sameEngines_call {α : Type} (m : Monitor) (e : Nat) (what : EngineCall)
    (answer : α → Option Status) (act : Engine → α × Engine × List Native.Call)
    (h : (m.engines e).SamePolicies (act (m.engines e)).2.1) :
    SameEngines m (m.call e what answer act).2 :=
  sameEngines_adjust m e (fun _ => (act (m.engines e)).2.1) h

theorem sameEngines_reap (m : Monitor) (e : Nat) : SameEngines m (m.reap e) := by
  refine sameEngines_adjust m e (fun _ =>
    (if m.isReferenced e then (m.engines e, []) else (m.engines e).giveBack).1) ?_
  split
  · exact .refl _
  · unfold Engine.SamePolicies
    rw [Engine.giveBack_sim]
    exact ⟨rfl, rfl⟩

structure SameTables (m m' : Monitor) : Prop where
  registry : m'.registry = m.registry
  lastId : m'.lastId = m.lastId
  groups : m'.groups = m.groups
  engines : SameEngines m m'

theorem SameTables.refl (m : Monitor) : SameTables m m := ⟨rfl, rfl, rfl, .refl m⟩

theorem sameTables_update (m : Monitor) (id : Nat) (f : Subscription → Subscription) :
    SameTables m (m.update id f) :=
  ⟨rfl, rfl, rfl, .refl m⟩

theorem sameTables_addEngine (m : Monitor) (e : Engine) : SameTables m (m.addEngine e) := by
  refine ⟨rfl, rfl, rfl, fun k hk => ?_⟩
  have hne : k ≠ m.engineCount := Nat.ne_of_lt hk
  simpa [addEngine, hne] using Engine.SamePolicies.refl _

theorem sameTables_adopt (m : Monitor) (x : Except Failure Native.Connection × List Native.Call) :
    SameTables m (m.adopt x).2 := by
  obtain ⟨f | c, calls⟩ := x
  · exact ⟨rfl, rfl, rfl, .refl m⟩
  · exact ⟨rfl, rfl, rfl, (sameTables_addEngine m _).engines⟩

theorem sameTables_reapPrevious (m : Monitor) (active previous : Option Nat) :
    SameTables m ({ m with active }.reapPrevious previous) := by
  cases previous with
  | none => exact ⟨rfl, rfl, rfl, .refl m⟩
  | some e => exact ⟨rfl, rfl, rfl, sameEngines_reap { m with active } e⟩

theorem setting_samePolicies (s : Setting) (e : Engine) : e.SamePolicies (s.apply e) := by
  cases s <;> exact ⟨rfl, rfl⟩

theorem sameEngines_askHistory (m : Monitor) (e : Nat) (q : History.Query)
    (script : Option History.Reply) : SameEngines m (m.askHistory e q script).2 := by
  apply sameEngines_call m e
  cases script with
  | none => exact Engine.history_samePolicies _ q
  | some reply => exact .refl _

theorem sameEngines_askSnapshot (m : Monitor) (e : Nat) (entities : List (UInt32 × UInt32))
    (fields : List UInt16) (flags : UInt32) (slots : Array EntityRecord)
    (script : Option (Array EntityRecord → Snapshot.Answer)) :
    SameEngines m (m.askSnapshot e entities fields flags slots script).2 := by
  apply sameEngines_call m e
  cases script with
  | none => exact Engine.snapshot_samePolicies _ _ _ _ _
  | some answer => exact .refl _

theorem sameTables_collect (m : Monitor) (engine : Option Nat) (q : History.Query)
    (script : Option History.Reply) : SameTables m (m.collect engine q script).2 := by
  unfold collect
  split
  · exact .refl m
  · rename_i e _
    have he := sameEngines_askHistory m e q script
    exact ⟨rfl, rfl, rfl, he⟩

theorem sameTables_snapshot (m : Monitor) (engine : Option Nat) (entities : List Entity)
    (fields : List UInt16) (flags : UInt32) (script : Option (Array EntityRecord → Snapshot.Answer)) :
    SameTables m (m.snapshot engine entities fields flags script).2 := by
  unfold snapshot
  split
  · exact .refl m
  · split
    · exact .refl m
    · rename_i e _ _ k _
      have he := sameEngines_askSnapshot { m with reserve := (m.reserve.lend k).2 } e
        (entities.map Entity.codes) fields flags (m.reserve.lend k).1.slots script
      exact ⟨rfl, rfl, rfl, he⟩

theorem sameTables_receive (m : Monitor) (id : Nat) : SameTables m (m.receive id).2 := by
  unfold receive receiveNone
  split
  · exact .refl m
  · split
    · split <;> exact ⟨rfl, rfl, rfl, .refl m⟩
    · split
      · exact ⟨rfl, rfl, rfl, .refl m⟩
      · split <;> exact ⟨rfl, rfl, rfl, .refl m⟩

theorem sameTables_callBack? {m m' : Monitor} {i : Nat} (h : m.callBack? i = some m') :
    SameTables m m' := by
  obtain ⟨f, target, rest, n, -, -, hd, rfl⟩ := callBack?_cases h
  cases hd <;> exact ⟨rfl, rfl, rfl, .refl m⟩

end Monitor

def Action.changesTables : Action → Bool
  | .move (.enter _) | .move (.detach _) | .move (.release _) | .move (.unregister _) => true
  | _ => false

namespace Monitor

theorem act?_sameTables {m m' : Monitor} {a : Action} (h : m.act? a = some m')
    (ha : a.changesTables = false) : SameTables m m' := by
  cases a with
  | addEngine =>
    cases h
    exact sameTables_addEngine m {}
  | openAt | openAny =>
    cases h
    exact sameTables_adopt m _
  | set e s =>
    cases h
    exact ⟨rfl, rfl, rfl, sameEngines_adjust m e _ (setting_samePolicies s _)⟩
  | errorString e code =>
    cases h
    unfold errorString
    split <;> exact ⟨rfl, rfl, rfl, .refl m⟩
  | activate e =>
    simp only [act?] at h
    split at h
    · cases h
      exact sameTables_reapPrevious m _ _
    · cases h
  | deactivate =>
    cases h
    exact sameTables_reapPrevious m _ _
  | disown e =>
    simp only [act?] at h
    split at h
    · cases h
      have hgiven : SameEngines m (m.adjust e fun g => { g with owned := false }) :=
        sameEngines_adjust m e _ ⟨rfl, rfl⟩
      exact ⟨rfl, rfl, rfl, hgiven.trans rfl (sameEngines_reap _ e)⟩
    · cases h
  | ask ticket w =>
    cases h
    unfold ask
    split <;> exact ⟨rfl, rfl, rfl, .refl m⟩
  | addToken | cancelToken | cancel | dropReader | fire | fireAt =>
    cases h
    exact ⟨rfl, rfl, rfl, .refl m⟩
  | receive id =>
    cases h
    exact sameTables_receive m id
  | collect engine q script =>
    cases h
    exact sameTables_collect m engine q script
  | snapshot engine entities fields flags script =>
    cases h
    exact sameTables_snapshot m engine entities fields flags script
  | move mv =>
    cases mv with
    | enter | detach | release | unregister => cases ha
    | start =>
      obtain ⟨s, -, -, -, rfl⟩ := start?_cases h
      exact sameTables_update m _ _
    | take =>
      obtain ⟨s, -, -, v, rest, -, -, -, rfl⟩ := take?_cases h
      exact sameTables_update m _ _
    | send =>
      obtain ⟨s, -, -, v, -, -, -, rfl⟩ := send?_cases h
      exact sameTables_update m _ _
    | leave =>
      obtain ⟨s, -, -, -, -, rfl⟩ := leave?_cases h
      exact sameTables_update m _ _
    | close =>
      obtain ⟨s, -, -, -, rfl⟩ := close?_cases h
      exact sameTables_update m _ _
    | finish =>
      obtain ⟨s, -, -, -, rfl⟩ := finish?_cases h
      exact sameTables_update m _ _
    | launch =>
      obtain ⟨f, -, -, -, firings, rfl⟩ := launch?_cases h
      exact ⟨rfl, rfl, rfl, .refl m⟩
    | callBack => exact sameTables_callBack? h
    | report =>
      obtain ⟨f, -, -, -, rfl⟩ := report?_cases h
      exact ⟨rfl, rfl, rfl, .refl m⟩

end Monitor

end GpuTelemetry
