import GpuTelemetry.Proofs.Moves
import GpuTelemetry.Proofs.Runs

namespace GpuTelemetry

namespace Action

def lends : Action → Bool
  | .snapshot .. => true
  | _ => false

def fires : Action → Bool
  | .fire .. | .fireAt .. | .move (.launch _) | .move (.callBack _) | .move (.report _) => true
  | _ => false

def logs : Action → Event → Bool
  | _, .native .. => true
  | .ask .., .subscribed .. => true
  | .receive _, .yielded .. => true
  | .receive _, .ended _ => true
  | .collect .., .called _ (.history ..) _ => true
  | .snapshot .., .called _ (.snapshot ..) _ => true
  | .move (.enter _), .called _ (.setPolicy ..) _ => true
  | .move (.enter _), .called _ (.register ..) _ => true
  | .move (.enter _), .subscribed .. => true
  | .move (.unregister _), .called _ (.unregister ..) _ => true
  | .move (.callBack _), .callback .. => true
  | .move (.callBack _), .recorded .. => true
  | .move (.callBack _), .accepted .. => true
  | .move (.report _), .fired .. => true
  | _, _ => false

@[simp] theorem logs_native (a : Action) (engine : Option Nat) (call : Native.Call) :
    a.logs (.native engine call) = true := by
  cases a with
  | move mv => cases mv <;> rfl
  | _ => rfl

end Action

namespace Monitor

structure Frame (m : Monitor) (a : Action) (m' : Monitor) : Prop where
  reserve : a.lends = false → m'.reserve = m.reserve
  firings : a.fires = false → m'.firings = m.firings
  journal : ∃ events, m'.journal = events ++ m.journal ∧ ∀ e ∈ events, a.logs e = true

variable {m n m' : Monitor} {a : Action}

theorem Frame.of_eq (reserve : m'.reserve = m.reserve) (firings : m'.firings = m.firings)
    (journal : m'.journal = m.journal) : Frame m a m' :=
  ⟨fun _ => reserve, fun _ => firings, [], journal, by simp⟩

theorem Frame.refl (m : Monitor) (a : Action) : Frame m a m := .of_eq rfl rfl rfl

theorem Frame.trans (h : Frame m a n) (h' : Frame n a m') : Frame m a m' := by
  obtain ⟨events, hj, hlogs⟩ := h.journal
  obtain ⟨events', hj', hlogs'⟩ := h'.journal
  refine ⟨fun ha => (h'.reserve ha).trans (h.reserve ha),
    fun ha => (h'.firings ha).trans (h.firings ha), events' ++ events, by simp [hj, hj'], ?_⟩
  intro e he
  obtain he | he := List.mem_append.mp he
  · exact hlogs' e he
  · exact hlogs e he

theorem Frame.note (h : Frame m a n) {e : Event} (logs : a.logs e = true) : Frame m a (n.note e) :=
  h.trans ⟨fun _ => rfl, fun _ => rfl, [e], rfl, by simpa using logs⟩

theorem Frame.noteNative (h : Frame m a n) (engine : Option Nat) (calls : List Native.Call) :
    Frame m a (n.noteNative engine calls) := by
  refine h.trans ⟨fun _ => rfl, fun _ => rfl, _, rfl, fun e he => ?_⟩
  obtain ⟨call, -, rfl⟩ := List.mem_map.mp (List.mem_reverse.mp he)
  exact a.logs_native engine call

theorem Frame.reap (h : Frame m a n) (e : Nat) : Frame m a (n.reap e) := by
  let given := n.adjust e fun _ =>
    (if n.isReferenced e then (n.engines e, []) else (n.engines e).giveBack).1
  have hgiven : Frame m a given := h.trans (.of_eq rfl rfl rfl)
  exact hgiven.noteNative _ _

theorem Frame.call {α : Type} (h : Frame m a n) (e : Nat) (what : EngineCall)
    (answer : α → Option Status) (act : Engine → α × Engine × List Native.Call)
    (logs : ∀ answer, a.logs (.called e what answer) = true) :
    Frame m a (n.call e what answer act).2 := by
  let told := n.note (.called e what (answer (act (n.engines e)).1))
  have htold : Frame m a told := h.note (logs _)
  have hdone : Frame m a (told.adjust e fun _ => (act (n.engines e)).2.1) :=
    htold.trans (.of_eq rfl rfl rfl)
  exact hdone.noteNative _ _

section callers

theorem adopt_frame (m : Monitor) (a : Action)
    (x : Except Failure Native.Connection × List Native.Call) : Frame m a (m.adopt x).2 := by
  obtain ⟨f | c, calls⟩ := x
  · exact (Frame.refl m a).noteNative _ _
  · have hadded : Frame m a (m.addEngine { connection := some c }) := .of_eq rfl rfl rfl
    exact hadded.noteNative _ _

theorem errorString_frame (m : Monitor) (a : Action) (e : Nat) (code : Int32) :
    Frame m a (m.errorString e code).2 := by
  unfold errorString
  split
  · exact (Frame.refl m a).noteNative _ _
  · exact .refl m a

theorem replaceActive_frame (m : Monitor) (a : Action) (active previous : Option Nat) :
    Frame m a ({ m with active }.reapPrevious previous) := by
  have hset : Frame m a { m with active } := .of_eq rfl rfl rfl
  cases previous with
  | none => exact hset
  | some e => exact hset.reap e

theorem ask_frame (m : Monitor) (ticket : Nat) (w : Wish) :
    Frame m (.ask ticket w) (m.ask ticket w) := by
  unfold ask
  split
  · exact (Frame.refl m _).note rfl
  · exact .of_eq rfl rfl rfl

theorem receive_frame (m : Monitor) (id : Nat) : Frame m (.receive id) (m.receive id).2 := by
  have hnone (n : Monitor) (s : Subscription) : Frame n (.receive id) (n.receiveNone s).2 := by
    unfold receiveNone
    split
    · exact (Frame.refl n _).note rfl
    · exact .refl n _
  have hupdate (f : Subscription → Subscription) : Frame m (.receive id) (m.update id f) :=
    .of_eq rfl rfl rfl
  unfold receive
  split
  · exact .refl m _
  · split
    · exact (hupdate _).trans (hnone _ _)
    · split
      · exact (hupdate _).note rfl
      · exact hnone m _

theorem collect_frame (m : Monitor) (engine : Option Nat) (q : History.Query)
    (script : Option History.Reply) :
    Frame m (.collect engine q script) (m.collect engine q script).2 := by
  unfold collect
  split
  · exact .refl m _
  · rename_i e _
    have hasked : Frame m (.collect engine q script) (m.askHistory e q script).2 :=
      (Frame.refl m _).call e (.history q.group q.fieldGroup q.since) _ _ fun _ => rfl
    exact hasked

theorem snapshot_frame (m : Monitor) (engine : Option Nat) (entities : List Entity)
    (fields : List UInt16) (flags : UInt32) (script : Option (Array EntityRecord → Snapshot.Answer)) :
    Frame m (.snapshot engine entities fields flags script)
      (m.snapshot engine entities fields flags script).2 := by
  unfold snapshot
  split
  · exact .refl m _
  · split
    · exact .refl m _
    · rename_i e _ _ n _
      let lent : Monitor := { m with reserve := (m.reserve.lend n).2 }
      have hlent : Frame m (.snapshot engine entities fields flags script) lent :=
        ⟨nofun, fun _ => rfl, [], rfl, by simp⟩
      have hasked : Frame m (.snapshot engine entities fields flags script)
          (lent.askSnapshot e (entities.map Entity.codes) fields flags
            (m.reserve.lend n).1.slots script).2 :=
        hlent.call e (.snapshot (entities.map Entity.codes) fields flags
          (m.reserve.lend n).1.slots.size) _ _ fun _ => rfl
      exact ⟨nofun, hasked.firings, hasked.journal⟩

end callers

theorem enrol_frame (m : Monitor) (i : Nat) (r : Request) : Frame m (.move (.enter i)) (m.enrol r) := by
  have hpolicy : Frame m (.move (.enter i)) (m.askPolicy r).2 :=
    (Frame.refl m _).call _ (.setPolicy r.key.group (m.policyFor r)) _ _ fun _ => rfl
  have hregister (n : Monitor) : Frame n (.move (.enter i)) (n.askRegistration r).2 := by
    let entered : Monitor := { n with lastId := n.lastId + 1, registry := (n.lastId + 1) :: n.registry }
    have hentered : Frame n (.move (.enter i)) entered := .of_eq rfl rfl rfl
    exact hentered.call _ (.register r.key.group (Condition.maskOf r.conditions) (n.lastId + 1)) _ _
      fun _ => rfl
  have hfail (n : Monitor) (f : Failure) : Frame n (.move (.enter i)) (n.fail r f) := by
    have hnoted : Frame n (.move (.enter i)) (n.note (.subscribed r.ticket (.error f))) :=
      (Frame.refl n _).note rfl
    exact hnoted.reap _
  have hend := enrol_cases m r
  generalize m.enrol r = m' at hend
  cases hend with
  | policyRefused refused => exact hpolicy.trans (hfail _ _)
  | registrationRefused n hn accepted refused =>
    subst hn
    have hleft : Frame ((m.askPolicy r).2.askRegistration r).2 (.move (.enter i))
        { ((m.askPolicy r).2.askRegistration r).2 with registry := m.registry } := .of_eq rfl rfl rfl
    exact ((hpolicy.trans (hregister _)).trans hleft).trans (hfail _ _)
  | joined n hn accepted registered =>
    subst hn
    let asked := ((m.askPolicy r).2.askRegistration r).2
    have hjoin : Frame asked (.move (.enter i)) (asked.join r) := by
      refine ⟨fun _ => rfl, fun _ => rfl, [.subscribed r.ticket (.ok asked.lastId)], rfl, ?_⟩
      simp [Action.logs]
    exact (hpolicy.trans (hregister _)).trans hjoin

theorem callBack?_frame {i : Nat} (h : m.callBack? i = some m') :
    Frame m (.move (.callBack i)) m' := by
  obtain ⟨f, target, rest, n, -, -, hd, rfl⟩ := callBack?_cases h
  have hn : Frame m (.move (.callBack i)) n := by
    cases hd with
    | recorded => exact (Frame.refl m _).note rfl
    | ignored => exact .refl m _
    | accepted s v known addressed attached decoded watched room =>
      have hput : Frame m (.move (.callBack i)) (m.update s.id fun s =>
          { s with slots := assign s.slots v.condition (s.slots v.condition ++ [v]) }) :=
        .of_eq rfl rfl rfl
      exact hput.note rfl
  obtain ⟨reserve, -, journal⟩ := hn.note (e := .callback f.engine target) rfl
  exact ⟨reserve, nofun, journal⟩

theorem move?_frame {mv : Move} (h : m.move? mv = some m') : Frame m (.move mv) m' := by
  cases mv with
  | enter i =>
    obtain ⟨r, -, -, rfl⟩ := enter?_cases h
    have htaken : Frame m (.move (.enter i)) { m with requests := m.requests.eraseIdx i } :=
      .of_eq rfl rfl rfl
    exact htaken.trans (enrol_frame _ i r)
  | start =>
    obtain ⟨s, -, -, -, rfl⟩ := start?_cases h
    exact .of_eq rfl rfl rfl
  | take =>
    obtain ⟨s, -, -, v, rest, -, -, -, rfl⟩ := take?_cases h
    exact .of_eq rfl rfl rfl
  | send =>
    obtain ⟨s, -, -, v, -, -, -, rfl⟩ := send?_cases h
    exact .of_eq rfl rfl rfl
  | leave =>
    obtain ⟨s, -, -, -, -, rfl⟩ := leave?_cases h
    exact .of_eq rfl rfl rfl
  | detach =>
    obtain ⟨s, -, -, -, rfl⟩ := detach?_cases h
    exact .of_eq rfl rfl rfl
  | release id =>
    obtain ⟨s, -, -, -, -, mask, -, ⟨-, rfl⟩ | ⟨-, rfl⟩⟩ := release?_cases h
    · have hreleased : Frame m (.move (.release id)) ((m.afterRelease s.key s.conditions).update id
          fun s => { s with phase := .released }) := .of_eq rfl rfl rfl
      exact hreleased.reap _
    · exact .of_eq rfl rfl rfl
  | unregister id =>
    obtain ⟨s, -, -, mask, -, -, rfl⟩ := unregister?_cases h
    have hcall : Frame m (.move (.unregister id)) (m.afterUnregister s.key mask) :=
      (Frame.refl m _).call _ (.unregister s.key.group mask) _ _ fun _ => rfl
    have hdone : Frame (m.afterUnregister s.key mask) (.move (.unregister id))
        ((m.afterUnregister s.key mask).update id fun s => { s with phase := .released }) :=
      .of_eq rfl rfl rfl
    exact (hcall.trans hdone).reap _
  | close =>
    obtain ⟨s, -, -, -, rfl⟩ := close?_cases h
    exact .of_eq rfl rfl rfl
  | finish =>
    obtain ⟨s, -, -, -, rfl⟩ := finish?_cases h
    exact .of_eq rfl rfl rfl
  | launch =>
    obtain ⟨f, -, -, -, firings, rfl⟩ := launch?_cases h
    exact ⟨fun _ => rfl, nofun, [], rfl, by simp⟩
  | callBack => exact callBack?_frame h
  | report =>
    obtain ⟨f, -, -, -, rfl⟩ := report?_cases h
    exact ⟨fun _ => rfl, nofun, [.fired f.ticket f.total f.callbacks], rfl, by simp [Action.logs]⟩

theorem act?_frame (h : m.act? a = some m') : Frame m a m' := by
  cases a with
  | addEngine | set | addToken | cancelToken | cancel | dropReader =>
    cases h
    exact .of_eq rfl rfl rfl
  | fire | fireAt =>
    cases h
    exact ⟨fun _ => rfl, nofun, [], rfl, by simp⟩
  | openAt | openAny =>
    cases h
    exact adopt_frame m _ _
  | errorString e code =>
    cases h
    exact errorString_frame m _ e code
  | activate e =>
    simp only [act?] at h
    split at h
    · cases h
      exact replaceActive_frame m _ _ _
    · cases h
  | deactivate =>
    cases h
    exact replaceActive_frame m _ _ _
  | disown e =>
    simp only [act?] at h
    split at h
    · cases h
      have hgiven : Frame m (.disown e) (m.adjust e fun g => { g with owned := false }) :=
        .of_eq rfl rfl rfl
      exact hgiven.reap e
    · cases h
  | ask ticket w =>
    cases h
    exact ask_frame m ticket w
  | receive id =>
    cases h
    exact receive_frame m id
  | collect engine q script =>
    cases h
    exact collect_frame m engine q script
  | snapshot engine entities fields flags script =>
    cases h
    exact snapshot_frame m engine entities fields flags script
  | move mv => exact move?_frame h

end Monitor

end GpuTelemetry
