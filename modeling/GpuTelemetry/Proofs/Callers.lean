import GpuTelemetry.Proofs.EngineCalls
import GpuTelemetry.Proofs.Moves
import GpuTelemetry.Proofs.Runs

namespace GpuTelemetry

namespace Monitor

def SameOwners (m m' : Monitor) : Prop := ∀ e, (m'.engines e).owned = (m.engines e).owned

theorem SameOwners.trans {m n o : Monitor} (h : SameOwners m n) (h' : SameOwners n o) :
    SameOwners m o :=
  fun e => (h' e).trans (h e)

theorem sameOwners_adjust (m : Monitor) (e : Nat) (f : Engine → Engine)
    (h : (f (m.engines e)).owned = (m.engines e).owned) : SameOwners m (m.adjust e f) := by
  intro k
  by_cases hk : k = e
  · subst hk
    simpa [adjust] using h
  · simp [adjust, hk]

theorem sameOwners_call {α : Type} (m : Monitor) (e : Nat) (what : EngineCall)
    (answer : α → Option Status) (act : Engine → α × Engine × List Native.Call)
    (h : (act (m.engines e)).2.1.owned = (m.engines e).owned) :
    SameOwners m (m.call e what answer act).2 :=
  sameOwners_adjust m e (fun _ => (act (m.engines e)).2.1) h

theorem sameOwners_reap (m : Monitor) (e : Nat) : SameOwners m (m.reap e) := by
  refine sameOwners_adjust m e (fun _ =>
    (if m.isReferenced e then (m.engines e, []) else (m.engines e).giveBack).1) ?_
  split
  · rfl
  · exact Engine.giveBack_owned _

theorem sameOwners_askPolicy (m : Monitor) (r : Request) : SameOwners m (m.askPolicy r).2 :=
  sameOwners_call m _ _ _ _ (Engine.through_owned _ _ _ _ _)

theorem sameOwners_askRegistration (m : Monitor) (r : Request) :
    SameOwners m (m.askRegistration r).2 :=
  sameOwners_call { m with lastId := m.lastId + 1, registry := (m.lastId + 1) :: m.registry } _ _ _ _
    (Engine.through_owned _ _ _ _ _)

structure SameCallers (m m' : Monitor) : Prop where
  tokens : m'.tokens = m.tokens
  active : m'.active = m.active
  engineCount : m'.engineCount = m.engineCount
  owners : SameOwners m m'
  requests : ∀ r ∈ m'.requests, r ∈ m.requests

theorem SameCallers.refl (m : Monitor) : SameCallers m m :=
  ⟨rfl, rfl, rfl, fun _ => rfl, fun _ h => h⟩

theorem sameCallers_update (m : Monitor) (id : Nat) (f : Subscription → Subscription) :
    SameCallers m (m.update id f) :=
  ⟨rfl, rfl, rfl, fun _ => rfl, fun _ h => h⟩

theorem sameCallers_receive (m : Monitor) (id : Nat) : SameCallers m (m.receive id).2 := by
  unfold receive receiveNone
  split
  · exact .refl m
  · split
    · split <;> exact ⟨rfl, rfl, rfl, fun _ => rfl, fun _ h => h⟩
    · split
      · exact ⟨rfl, rfl, rfl, fun _ => rfl, fun _ h => h⟩
      · split <;> exact ⟨rfl, rfl, rfl, fun _ => rfl, fun _ h => h⟩

theorem sameCallers_collect (m : Monitor) (engine : Option Nat) (q : History.Query)
    (script : Option History.Reply) : SameCallers m (m.collect engine q script).2 := by
  unfold collect
  split
  · exact .refl m
  · rename_i e _
    have he : SameOwners m (m.askHistory e q script).2 := by
      apply sameOwners_call m e
      cases script with
      | none => exact Engine.through_owned _ _ _ _ _
      | some reply => rfl
    exact ⟨rfl, rfl, rfl, he, fun _ h => h⟩

theorem sameOwners_askSnapshot (m : Monitor) (e : Nat) (entities : List (UInt32 × UInt32))
    (fields : List UInt16) (flags : UInt32) (slots : Array EntityRecord)
    (script : Option (Array EntityRecord → Snapshot.Answer)) :
    SameOwners m (m.askSnapshot e entities fields flags slots script).2 := by
  apply sameOwners_call m e
  cases script with
  | none => exact Engine.snapshot_owned _ _ _ _ _
  | some answer => rfl

theorem sameCallers_snapshot (m : Monitor) (engine : Option Nat) (entities : List Entity)
    (fields : List UInt16) (flags : UInt32) (script : Option (Array EntityRecord → Snapshot.Answer)) :
    SameCallers m (m.snapshot engine entities fields flags script).2 := by
  unfold snapshot
  split
  · exact .refl m
  · split
    · exact .refl m
    · rename_i e _ _ k _
      have he := sameOwners_askSnapshot { m with reserve := (m.reserve.lend k).2 } e
        (entities.map Entity.codes) fields flags (m.reserve.lend k).1.slots script
      exact ⟨rfl, rfl, rfl, he, fun _ h => h⟩

theorem setting_owned (s : Setting) (e : Engine) : (s.apply e).owned = e.owned := by
  cases s <;> rfl

theorem sameCallers_fail (m : Monitor) (r : Request) (f : Failure) : SameCallers m (m.fail r f) :=
  ⟨rfl, rfl, rfl, sameOwners_reap (m.note (.subscribed r.ticket (.error f))) r.key.engine,
    fun _ h => h⟩

theorem sameCallers_enrol (m : Monitor) (r : Request) : SameCallers m (m.enrol r) := by
  have hpolicy := sameOwners_askPolicy m r
  have hend := enrol_cases m r
  generalize m.enrol r = m' at hend
  cases hend with
  | policyRefused refused =>
    exact ⟨rfl, rfl, rfl, hpolicy.trans (sameCallers_fail _ r _).owners, fun _ h => h⟩
  | registrationRefused o ho accepted refused =>
    subst ho
    let n : Monitor := { ((m.askPolicy r).2.askRegistration r).2 with registry := m.registry }
    have hregister : SameOwners m n := hpolicy.trans (sameOwners_askRegistration _ r)
    exact ⟨rfl, rfl, rfl, hregister.trans (sameCallers_fail n r _).owners, fun _ h => h⟩
  | joined o ho accepted registered =>
    subst ho
    exact ⟨rfl, rfl, rfl, hpolicy.trans (sameOwners_askRegistration _ r), fun _ h => h⟩

theorem move?_sameCallers {m m' : Monitor} {mv : Move} (h : m.move? mv = some m') :
    SameCallers m m' := by
  cases mv with
  | enter i =>
    obtain ⟨r, -, -, rfl⟩ := enter?_cases h
    obtain ⟨tokens, active, count, owners, requests⟩ :=
      sameCallers_enrol { m with requests := m.requests.eraseIdx i } r
    exact ⟨tokens, active, count, owners, fun q hq => List.mem_of_mem_eraseIdx (requests q hq)⟩
  | start =>
    obtain ⟨s, -, -, -, rfl⟩ := start?_cases h
    exact sameCallers_update m _ _
  | take =>
    obtain ⟨s, -, -, v, rest, -, -, -, rfl⟩ := take?_cases h
    exact sameCallers_update m _ _
  | send =>
    obtain ⟨s, -, -, v, -, -, -, rfl⟩ := send?_cases h
    exact sameCallers_update m _ _
  | leave =>
    obtain ⟨s, -, -, -, -, rfl⟩ := leave?_cases h
    exact sameCallers_update m _ _
  | detach =>
    obtain ⟨s, -, -, -, rfl⟩ := detach?_cases h
    exact ⟨rfl, rfl, rfl, fun _ => rfl, fun _ h => h⟩
  | release =>
    obtain ⟨s, -, -, -, -, mask, -, ⟨-, rfl⟩ | ⟨-, rfl⟩⟩ := release?_cases h
    · exact ⟨rfl, rfl, rfl, sameOwners_reap _ _, fun _ h => h⟩
    · exact ⟨rfl, rfl, rfl, fun _ => rfl, fun _ h => h⟩
  | unregister =>
    obtain ⟨s, -, -, mask, -, -, rfl⟩ := unregister?_cases h
    have hcall : SameOwners m (m.afterUnregister s.key mask) :=
      sameOwners_call m _ _ _ _ (Engine.unregister_owned _ _ _)
    exact ⟨rfl, rfl, rfl, hcall.trans (sameOwners_reap _ _), fun _ h => h⟩
  | close =>
    obtain ⟨s, -, -, -, rfl⟩ := close?_cases h
    exact sameCallers_update m _ _
  | finish =>
    obtain ⟨s, -, -, -, rfl⟩ := finish?_cases h
    exact sameCallers_update m _ _
  | launch =>
    obtain ⟨f, -, -, -, firings, rfl⟩ := launch?_cases h
    exact ⟨rfl, rfl, rfl, fun _ => rfl, fun _ h => h⟩
  | callBack =>
    obtain ⟨f, target, rest, n, -, -, hd, rfl⟩ := callBack?_cases h
    cases hd <;> exact ⟨rfl, rfl, rfl, fun _ => rfl, fun _ h => h⟩
  | report =>
    obtain ⟨f, -, -, -, rfl⟩ := report?_cases h
    exact ⟨rfl, rfl, rfl, fun _ => rfl, fun _ h => h⟩

end Monitor

def Action.changesCallers : Action → Bool
  | .addEngine | .openAt .. | .openAny .. | .activate _ | .deactivate | .disown _ | .addToken _
  | .cancelToken _ | .ask .. => true
  | _ => false

namespace Monitor

theorem act?_sameCallers {m m' : Monitor} {a : Action} (h : m.act? a = some m')
    (ha : a.changesCallers = false) : SameCallers m m' := by
  cases a with
  | addEngine | openAt | openAny | activate | deactivate | disown | addToken | cancelToken | ask =>
    cases ha
  | set e s =>
    cases h
    exact ⟨rfl, rfl, rfl, sameOwners_adjust m e _ (setting_owned s _), fun _ h => h⟩
  | errorString e code =>
    cases h
    unfold errorString
    split <;> exact ⟨rfl, rfl, rfl, fun _ => rfl, fun _ h => h⟩
  | cancel | dropReader | fire | fireAt =>
    cases h
    exact ⟨rfl, rfl, rfl, fun _ => rfl, fun _ h => h⟩
  | receive id =>
    cases h
    exact sameCallers_receive m id
  | collect engine q script =>
    cases h
    exact sameCallers_collect m engine q script
  | snapshot engine entities fields flags script =>
    cases h
    exact sameCallers_snapshot m engine entities fields flags script
  | move mv => exact move?_sameCallers h

theorem sameCallers_reap (m : Monitor) (e : Nat) : SameCallers m (m.reap e) :=
  ⟨rfl, rfl, rfl, sameOwners_reap m e, fun _ h => h⟩

theorem sameCallers_reapPrevious (m : Monitor) (previous : Option Nat) :
    SameCallers m (m.reapPrevious previous) := by
  cases previous with
  | none => exact .refl m
  | some e => exact sameCallers_reap m e

inductive CallerEffect (m : Monitor) : Action → Monitor → Prop
  | none {a : Action} {m' : Monitor} (same : SameCallers m m') : CallerEffect m a m'
  | engine {a : Action} {m' : Monitor} (e : Engine) (same : SameCallers (m.addEngine e) m') :
      CallerEffect m a m'
  | active {a : Action} {m' : Monitor} (active : Option Nat)
      (owned : ∀ e, active = some e → (m.engines e).owned = true)
      (same : SameCallers { m with active } m') : CallerEffect m a m'
  | disowned (e : Nat) {m' : Monitor}
      (same : SameCallers (m.adjust e fun g => { g with owned := false }) m') :
      CallerEffect m (.disown e) m'
  | token (parent : Option Nat) : CallerEffect m (.addToken parent) (m.addToken parent)
  | cancelled (token : Nat) : CallerEffect m (.cancelToken token) (m.cancelToken token)
  | asked (ticket : Nat) (w : Wish) (r : Request) (fits : m.requestOf ticket w = .ok r) :
      CallerEffect m (.ask ticket w) { m with requests := m.requests ++ [r] }

theorem adopt_callerEffect (m : Monitor) (a : Action)
    (x : Except Failure Native.Connection × List Native.Call) :
    CallerEffect m a (m.adopt x).2 := by
  obtain ⟨f | c, calls⟩ := x
  · exact .none ⟨rfl, rfl, rfl, fun _ => rfl, fun _ h => h⟩
  · exact .engine { connection := some c } ⟨rfl, rfl, rfl, fun _ => rfl, fun _ h => h⟩

theorem adopt_opens (m : Monitor) (x : Except Failure Native.Connection × List Native.Call) :
    (m.adopt x).2.engineCount = m.engineCount ∨ ∃ connection,
      (m.adopt x).2.engineCount = m.engineCount + 1 ∧
        (m.adopt x).2.engines = (m.addEngine { connection }).engines := by
  obtain ⟨f | c, calls⟩ := x
  · exact .inl rfl
  · exact .inr ⟨some c, rfl, rfl⟩

theorem ask_callerEffect (m : Monitor) (ticket : Nat) (w : Wish) :
    CallerEffect m (.ask ticket w) (m.ask ticket w) := by
  unfold ask
  cases hr : m.requestOf ticket w with
  | error f => exact .none ⟨rfl, rfl, rfl, fun _ => rfl, fun _ h => h⟩
  | ok r => exact .asked ticket w r hr

theorem act?_callerEffect {m m' : Monitor} {a : Action} (h : m.act? a = some m') :
    CallerEffect m a m' := by
  cases a with
  | addEngine =>
    cases h
    exact .engine {} (.refl _)
  | openAt | openAny =>
    cases h
    exact adopt_callerEffect m _ _
  | activate e =>
    simp only [act?] at h
    split at h
    · rename_i howned
      cases h
      refine .active (some e) (fun k hk => ?_) (sameCallers_reapPrevious _ m.active)
      rwa [← Option.some.inj hk]
    · cases h
  | deactivate =>
    cases h
    exact .active none (by simp) (sameCallers_reapPrevious _ m.active)
  | disown e =>
    simp only [act?] at h
    split at h
    · cases h
      exact .disowned e (sameCallers_reap _ e)
    · cases h
  | addToken parent =>
    cases h
    exact .token parent
  | cancelToken token =>
    cases h
    exact .cancelled token
  | ask ticket w =>
    cases h
    exact ask_callerEffect m ticket w
  | _ => exact .none (act?_sameCallers h rfl)

theorem act?_opens {m m' : Monitor} {a : Action} (h : m.act? a = some m') :
    m'.engineCount = m.engineCount ∨ ∃ connection,
      m'.engineCount = m.engineCount + 1 ∧ m'.engines = (m.addEngine { connection }).engines := by
  cases a with
  | addEngine =>
    cases h
    exact .inr ⟨none, rfl, rfl⟩
  | openAt load mode path =>
    cases h
    exact adopt_opens m _
  | openAny load mode override =>
    cases h
    exact adopt_opens m _
  | activate e =>
    simp only [act?] at h
    split at h
    · cases h
      exact .inl (sameCallers_reapPrevious _ m.active).engineCount
    · cases h
  | deactivate =>
    cases h
    exact .inl (sameCallers_reapPrevious _ m.active).engineCount
  | disown e =>
    simp only [act?] at h
    split at h
    · cases h
      exact .inl rfl
    · cases h
  | addToken | cancelToken =>
    cases h
    exact .inl rfl
  | ask ticket w =>
    cases h
    unfold ask
    split <;> exact .inl rfl
  | _ => exact .inl (act?_sameCallers h rfl).engineCount

end Monitor

end GpuTelemetry
