import GpuTelemetry.Proofs.Moves
import GpuTelemetry.Proofs.Runs
import Mathlib.Data.List.Nodup

/-!
What one action does to the subscriptions. Each of them makes one step of its own or none, and at most
one new subscription appears; the journal grows by just what the steps accept and yield.
-/

namespace GpuTelemetry

namespace Event

def acceptedBy? (id : Nat) : Event → Option Violation
  | .accepted i v => if i = id then some v else none
  | _ => none

def yieldedBy? (id : Nat) : Event → Option Violation
  | .yielded i v => if i = id then some v else none
  | _ => none

end Event

namespace Monitor

def accepted (m : Monitor) (id : Nat) : List Violation :=
  (m.journal.filterMap (Event.acceptedBy? id)).reverse

def yielded (m : Monitor) (id : Nat) : List Violation :=
  (m.journal.filterMap (Event.yieldedBy? id)).reverse

@[simp] theorem accepted_update (m : Monitor) (id k : Nat) (f : Subscription → Subscription) :
    (m.update id f).accepted k = m.accepted k := rfl

@[simp] theorem yielded_update (m : Monitor) (id k : Nat) (f : Subscription → Subscription) :
    (m.update id f).yielded k = m.yielded k := rfl

theorem accepted_note (m : Monitor) (e : Event) (id : Nat) :
    (m.note e).accepted id = m.accepted id ++ (e.acceptedBy? id).toList := by
  simp only [accepted, note, List.filterMap_cons]
  cases e.acceptedBy? id <;> simp

theorem yielded_note (m : Monitor) (e : Event) (id : Nat) :
    (m.note e).yielded id = m.yielded id ++ (e.yieldedBy? id).toList := by
  simp only [yielded, note, List.filterMap_cons]
  cases e.yieldedBy? id <;> simp

def SameDeliveries (m m' : Monitor) : Prop :=
  ∀ id, m'.accepted id = m.accepted id ∧ m'.yielded id = m.yielded id

theorem SameDeliveries.of_journal {m m' : Monitor} (es : List Event)
    (h : m'.journal = es ++ m.journal)
    (ha : ∀ e ∈ es, ∀ id, e.acceptedBy? id = none ∧ e.yieldedBy? id = none) :
    SameDeliveries m m' := by
  intro id
  have hacc : es.filterMap (Event.acceptedBy? id) = [] :=
    List.filterMap_eq_nil_iff.mpr fun e he => (ha e he id).1
  have hout : es.filterMap (Event.yieldedBy? id) = [] :=
    List.filterMap_eq_nil_iff.mpr fun e he => (ha e he id).2
  simp [accepted, yielded, h, hacc, hout]

theorem SameDeliveries.refl (m : Monitor) : SameDeliveries m m := fun _ => ⟨rfl, rfl⟩

theorem SameDeliveries.trans {m n o : Monitor} (h : SameDeliveries m n) (h' : SameDeliveries n o) :
    SameDeliveries m o :=
  fun id => ⟨(h' id).1.trans (h id).1, (h' id).2.trans (h id).2⟩

theorem sameDeliveries_of_eq {m m' : Monitor} (h : m'.journal = m.journal) : SameDeliveries m m' :=
  .of_journal [] h (by simp)

theorem sameDeliveries_noteNative (m : Monitor) (e : Option Nat) (calls : List Native.Call) :
    SameDeliveries m (m.noteNative e calls) := by
  refine .of_journal _ rfl ?_
  intro event he id
  obtain ⟨call, -, rfl⟩ := List.mem_map.mp (List.mem_reverse.mp he)
  exact ⟨rfl, rfl⟩

theorem sameDeliveries_note (m : Monitor) (e : Event)
    (h : ∀ id, e.acceptedBy? id = none ∧ e.yieldedBy? id = none) : SameDeliveries m (m.note e) :=
  .of_journal [e] rfl (by simpa using h)

theorem sameDeliveries_reap (m : Monitor) (e : Nat) : SameDeliveries m (m.reap e) :=
  .trans (sameDeliveries_of_eq rfl) (sameDeliveries_noteNative _ _ _)

theorem sameDeliveries_call {α : Type} (m : Monitor) (e : Nat) (what : EngineCall)
    (answer : α → Option Status) (act : Engine → α × Engine × List Native.Call) :
    SameDeliveries m (m.call e what answer act).2 := by
  refine .trans (n := m.note (.called e what (answer (act (m.engines e)).1))) ?_ ?_
  · exact sameDeliveries_note _ _ fun _ => ⟨rfl, rfl⟩
  · exact .trans (sameDeliveries_of_eq rfl) (sameDeliveries_noteNative _ _ _)

end Monitor

inductive Subscription.Step (m : Monitor) (s : Subscription) :
    Action → List Violation → List Violation → Subscription → Prop
  | same (a : Action) : Step m s a [] [] s
  | cancelled (a : Action) : Step m s a [] [] { s with scope := { s.scope with fired := true } }
  | dropped : Step m s (.dropReader s.id) [] []
      { s with scope := { s.scope with fired := true }, reader := false }
  | accepted (i : Nat) (v : Violation) (watched : v.condition ∈ s.conditions)
      (attached : s.id ∈ m.registry)
      (room : (s.slots v.condition).length < Limits.slotCapacity) :
      Step m s (.move (.callBack i)) [v] []
        { s with slots := assign s.slots v.condition (s.slots v.condition ++ [v]) }
  | yielded (v : Violation) (rest : List Violation) (live : s.scope.fired = false)
      (buffered : s.output = v :: rest) :
      Step m s (.receive s.id) [] [v] { s with output := rest }
  | discarded (fired : s.scope.fired = true) :
      Step m s (.receive s.id) [] [] { s with output := [] }
  | started (phase : s.phase = .registered) :
      Step m s (.move (.start s.id)) [] [] { s with phase := .streaming }
  | taken (c : Condition) (v : Violation) (rest : List Violation) (phase : s.phase = .streaming)
      (free : s.hand = none) (ready : s.slots c = v :: rest) :
      Step m s (.move (.take s.id c)) [] []
        { s with hand := some v, slots := assign s.slots c rest }
  | sent (v : Violation) (phase : s.phase = .streaming) (held : s.hand = some v)
      (room : s.output.length < Limits.outputCapacity) :
      Step m s (.move (.send s.id)) [] [] { s with hand := none, output := s.output ++ [v] }
  | left (phase : s.phase = .streaming) (stops : m.stops s) :
      Step m s (.move (.leave s.id)) [] [] { s with phase := .leaving, hand := none }
  | detached (phase : s.phase = .leaving) :
      Step m s (.move (.detach s.id)) [] [] { s with phase := .waiting, slots := fun _ => [] }
  | released (phase : s.phase = .waiting) (free : m.isLocked s.key = false)
      (idle : ((m.groups s.key).release s.conditions).2 = 0) :
      Step m s (.move (.release s.id)) [] [] { s with phase := .released }
  | called (mask : UInt32) (phase : s.phase = .waiting) (free : m.isLocked s.key = false)
      (due : ((m.groups s.key).release s.conditions).2 = mask) (busy : mask ≠ 0) :
      Step m s (.move (.release s.id)) [] [] { s with phase := .calling mask }
  | returned (mask : UInt32) (phase : s.phase = .calling mask) :
      Step m s (.move (.unregister s.id)) [] [] { s with phase := .released }
  | closed (phase : s.phase = .released) :
      Step m s (.move (.close s.id)) [] [] { s with phase := .closed }
  | finished (phase : s.phase = .closed) :
      Step m s (.move (.finish s.id)) [] [] { s with phase := .finished }

namespace Monitor

def Adds (m : Monitor) (a : Action) (s : Subscription) : Prop :=
  ∃ i r, a = .move (.enter i) ∧ m.requests[i]? = some r ∧ m.isLocked r.key = false ∧
    s = r.subscription (m.lastId + 1) (m.scopeOf r.token)

def Evolves (m : Monitor) (a : Action) (m' : Monitor) : Prop :=
  ∃ (next : Subscription → Subscription) (added : List Subscription),
    m'.subscriptions = m.subscriptions.map next ++ added ∧
    (∀ s ∈ m.subscriptions, ∃ acc out, s.Step m a acc out (next s) ∧
      m'.accepted s.id = m.accepted s.id ++ acc ∧ m'.yielded s.id = m.yielded s.id ++ out) ∧
    (∀ id, (∀ s ∈ m.subscriptions, s.id ≠ id) →
      m'.accepted id = m.accepted id ∧ m'.yielded id = m.yielded id) ∧
    (added = [] ∨ ∃ s, added = [s] ∧ m.Adds a s ∧ s.id ≤ m'.lastId) ∧
    m.lastId ≤ m'.lastId

theorem Evolves.of_same {m m' : Monitor} (a : Action) (list : m'.subscriptions = m.subscriptions)
    (same : SameDeliveries m m') (ids : m.lastId ≤ m'.lastId) : Evolves m a m' := by
  refine ⟨id, [], by simp [list], fun s _ => ⟨[], [], .same a, ?_, ?_⟩, fun id _ => same id,
    .inl rfl, ids⟩
  · simpa using (same s.id).1
  · simpa using (same s.id).2

structure Numbered (m : Monitor) : Prop where
  nodup : (m.subscriptions.map (·.id)).Nodup
  le : ∀ s ∈ m.subscriptions, s.id ≤ m.lastId

theorem Numbered.eq_of_id {m : Monitor} (n : m.Numbered) {s t : Subscription}
    (hs : s ∈ m.subscriptions) (ht : t ∈ m.subscriptions) (h : s.id = t.id) : s = t :=
  List.inj_on_of_nodup_map n.nodup hs ht h

theorem Numbered.mem_update_iff {m : Monitor} (n : m.Numbered) {s t : Subscription}
    (hs : s ∈ m.subscriptions) (f : Subscription → Subscription) :
    t ∈ (m.update s.id f).subscriptions ↔ t = f s ∨ (t ∈ m.subscriptions ∧ t.id ≠ s.id) := by
  constructor
  · intro ht
    obtain ⟨u, hu, rfl⟩ := List.mem_map.mp ht
    by_cases hid : u.id = s.id
    · obtain rfl := n.eq_of_id hu hs hid
      exact .inl (if_pos rfl)
    · rw [if_neg hid]
      exact .inr ⟨hu, hid⟩
  · rintro (rfl | ⟨ht, hid⟩)
    · exact List.mem_map.mpr ⟨s, hs, if_pos rfl⟩
    · exact List.mem_map.mpr ⟨t, ht, if_neg hid⟩

theorem Numbered.subscription?_of_mem {m : Monitor} (n : m.Numbered) {s : Subscription}
    (hs : s ∈ m.subscriptions) : m.subscription? s.id = some s := by
  cases h : m.subscription? s.id with
  | none => exact absurd (List.find?_eq_none.mp h s hs) (by simp)
  | some t =>
    obtain ⟨ht, hid⟩ := mem_of_subscription? h
    rw [n.eq_of_id ht hs hid]

theorem Evolves.of_update {m m' : Monitor} {a : Action} {s : Subscription}
    {f : Subscription → Subscription} {acc out : List Violation} (n : m.Numbered)
    (hs : s ∈ m.subscriptions) (list : m'.subscriptions = (m.update s.id f).subscriptions)
    (step : s.Step m a acc out (f s))
    (hacc : ∀ id, m'.accepted id = m.accepted id ++ if id = s.id then acc else [])
    (hout : ∀ id, m'.yielded id = m.yielded id ++ if id = s.id then out else [])
    (ids : m.lastId ≤ m'.lastId) : Evolves m a m' := by
  refine ⟨fun t => if t.id = s.id then f t else t, [], by simp [list, update], ?_, ?_,
    .inl rfl, ids⟩
  · intro t ht
    by_cases h : t.id = s.id
    · obtain rfl := n.eq_of_id ht hs h
      exact ⟨acc, out, by simpa using step, by simp [hacc], by simp [hout]⟩
    · exact ⟨[], [], by simpa [h] using .same a, by simp [hacc, h], by simp [hout, h]⟩
  · intro id hid
    have h : id ≠ s.id := fun he => hid s hs he.symm
    simp [hacc, hout, h]

theorem Evolves.of_quiet_update {m m' : Monitor} {a : Action} {s : Subscription}
    {f : Subscription → Subscription} (n : m.Numbered) (hs : s ∈ m.subscriptions)
    (list : m'.subscriptions = (m.update s.id f).subscriptions) (step : s.Step m a [] [] (f s))
    (same : SameDeliveries m m') (ids : m.lastId ≤ m'.lastId) : Evolves m a m' :=
  .of_update n hs list step (fun id => by simp [(same id).1]) (fun id => by simp [(same id).2]) ids

theorem Evolves.of_map {m m' : Monitor} {a : Action} (next : Subscription → Subscription)
    (list : m'.subscriptions = m.subscriptions.map next)
    (step : ∀ s ∈ m.subscriptions, s.Step m a [] [] (next s)) (same : SameDeliveries m m')
    (ids : m.lastId ≤ m'.lastId) : Evolves m a m' := by
  refine ⟨next, [], by simp [list], fun s hs => ⟨[], [], step s hs, ?_, ?_⟩, fun id _ => same id,
    .inl rfl, ids⟩
  · simpa using (same s.id).1
  · simpa using (same s.id).2

section callers

variable (m : Monitor) (a : Action)

theorem adopt_evolves (x : Except Failure Native.Connection × List Native.Call) :
    Evolves m a (m.adopt x).2 := by
  obtain ⟨f | c, calls⟩ := x
  · exact .of_same a rfl (sameDeliveries_noteNative _ _ _) (Nat.le_refl _)
  · exact .of_same a rfl (.trans (sameDeliveries_of_eq rfl) (sameDeliveries_noteNative _ _ _))
      (Nat.le_refl _)

theorem errorString_evolves (e : Nat) (code : Int32) : Evolves m a (m.errorString e code).2 := by
  unfold errorString
  split
  · exact .of_same a rfl (sameDeliveries_noteNative _ _ _) (Nat.le_refl _)
  · exact .of_same a rfl (.refl m) (Nat.le_refl _)

theorem replaceActive_evolves (active previous : Option Nat) :
    Evolves m a ({ m with active }.reapPrevious previous) := by
  cases previous with
  | none => exact .of_same a rfl (sameDeliveries_of_eq rfl) (Nat.le_refl _)
  | some e =>
    exact .of_same a rfl (.trans (sameDeliveries_of_eq rfl) (sameDeliveries_reap _ e)) (Nat.le_refl _)

theorem cancelToken_evolves (token : Nat) : Evolves m a (m.cancelToken token) := by
  refine .of_map (fun s => { s with scope := s.scope.cancel token }) rfl ?_
    (sameDeliveries_of_eq rfl) (Nat.le_refl _)
  intro s _
  unfold Scope.cancel
  split
  · exact .cancelled a
  · exact .same a

theorem ask_evolves (ticket : Nat) (w : Wish) : Evolves m a (m.ask ticket w) := by
  unfold ask
  split
  · exact .of_same a rfl (sameDeliveries_note _ _ fun _ => ⟨rfl, rfl⟩) (Nat.le_refl _)
  · exact .of_same a rfl (sameDeliveries_of_eq rfl) (Nat.le_refl _)

theorem cancel_evolves (id : Nat) : Evolves m a (m.cancel id) := by
  refine .of_map _ rfl ?_ (sameDeliveries_of_eq rfl) (Nat.le_refl _)
  intro s _
  split
  · exact .cancelled a
  · exact .same a

theorem dropReader_evolves (id : Nat) : Evolves m (.dropReader id) (m.dropReader id) := by
  refine .of_map (fun s => if s.id = id then
    { s with scope := { s.scope with fired := true }, reader := false } else s) ?_ ?_
    (sameDeliveries_of_eq rfl) (Nat.le_refl _)
  · simp only [dropReader, cancel, update, List.map_map]
    apply List.map_congr_left
    intro s _
    by_cases h : s.id = id <;> simp [h]
  · intro s _
    by_cases h : s.id = id
    · subst h
      simpa using .dropped
    · simpa [h] using .same _

theorem collect_evolves (engine : Option Nat) (q : History.Query) (script : Option History.Reply) :
    Evolves m a (m.collect engine q script).2 := by
  unfold collect
  split
  · exact .of_same a rfl (.refl m) (Nat.le_refl _)
  · rename_i e _
    change Evolves m a (m.askHistory e q script).2
    exact .of_same a rfl (sameDeliveries_call m e _ _ _) (Nat.le_refl _)

theorem snapshot_evolves (engine : Option Nat) (entities : List Entity) (fields : List UInt16)
    (flags : UInt32) (script : Option (Array EntityRecord → Snapshot.Answer)) :
    Evolves m a (m.snapshot engine entities fields flags script).2 := by
  unfold snapshot
  split
  · exact .of_same a rfl (.refl m) (Nat.le_refl _)
  · split
    · exact .of_same a rfl (.refl m) (Nat.le_refl _)
    · rename_i e _ _ k _
      let n : Monitor := { m with reserve := (m.reserve.lend k).2 }
      have hn : SameDeliveries n (n.askSnapshot e (entities.map Entity.codes) fields flags
          (m.reserve.lend k).1.slots script).2 := sameDeliveries_call n e _ _ _
      exact .of_same a rfl (.trans (sameDeliveries_of_eq rfl) (.trans hn (sameDeliveries_of_eq rfl)))
        (Nat.le_refl _)

end callers

theorem receiveNone_fst (m : Monitor) (s : Subscription) :
    (m.receiveNone s).1 = if s.phase = .finished then .closed else .pending := by
  unfold receiveNone
  split <;> rfl

theorem sameDeliveries_receiveNone (m : Monitor) (s : Subscription) :
    SameDeliveries m (m.receiveNone s).2 := by
  unfold receiveNone
  split
  · exact sameDeliveries_note _ _ fun _ => ⟨rfl, rfl⟩
  · exact .refl m

@[simp] theorem receiveNone_subscriptions (m : Monitor) (s : Subscription) :
    (m.receiveNone s).2.subscriptions = m.subscriptions := by
  unfold receiveNone
  split <;> rfl

@[simp] theorem receiveNone_lastId (m : Monitor) (s : Subscription) :
    (m.receiveNone s).2.lastId = m.lastId := by
  unfold receiveNone
  split <;> rfl

theorem receive_evolves {m : Monitor} (n : m.Numbered) (id : Nat) :
    Evolves m (.receive id) (m.receive id).2 := by
  unfold receive
  split
  · exact .of_same _ rfl (.refl m) (Nat.le_refl _)
  · rename_i s hs
    obtain ⟨hm, rfl⟩ := mem_of_subscription? hs
    split
    · rename_i hf
      exact .of_quiet_update n hm (receiveNone_subscriptions _ s) (.discarded hf)
        (.trans (sameDeliveries_of_eq rfl) (sameDeliveries_receiveNone _ s)) (by simp [update])
    · rename_i hf
      split
      · rename_i v rest hv
        refine .of_update n hm rfl (.yielded v rest (by simpa using hf) hv) ?_ ?_ (Nat.le_refl _)
        · intro k
          simp [accepted_note, Event.acceptedBy?]
        · intro k
          by_cases h : k = s.id
          · simp [yielded_note, Event.yieldedBy?, h]
          · simp [yielded_note, Event.yieldedBy?, h, Ne.symm h]
      · exact .of_same _ (by simp) (sameDeliveries_receiveNone m s) (by simp)

section moves

variable {m m' : Monitor} {id i : Nat}

theorem start?_evolves (n : m.Numbered) (h : m.start? id = some m') :
    Evolves m (.move (.start id)) m' := by
  obtain ⟨s, hs, rfl, hp, rfl⟩ := start?_cases h
  exact .of_quiet_update n hs rfl (.started hp) (sameDeliveries_of_eq rfl) (Nat.le_refl _)

theorem take?_evolves {c : Condition} (n : m.Numbered) (h : m.take? id c = some m') :
    Evolves m (.move (.take id c)) m' := by
  obtain ⟨s, hs, rfl, v, rest, hv, hp, hh, rfl⟩ := take?_cases h
  exact .of_quiet_update n hs rfl (.taken c v rest hp hh hv) (sameDeliveries_of_eq rfl)
    (Nat.le_refl _)

theorem send?_evolves (n : m.Numbered) (h : m.send? id = some m') :
    Evolves m (.move (.send id)) m' := by
  obtain ⟨s, hs, rfl, v, hh, hp, hroom, rfl⟩ := send?_cases h
  exact .of_quiet_update n hs rfl (.sent v hp hh hroom) (sameDeliveries_of_eq rfl) (Nat.le_refl _)

theorem leave?_evolves (n : m.Numbered) (h : m.leave? id = some m') :
    Evolves m (.move (.leave id)) m' := by
  obtain ⟨s, hs, rfl, hp, hstop, rfl⟩ := leave?_cases h
  exact .of_quiet_update n hs rfl (.left hp hstop) (sameDeliveries_of_eq rfl) (Nat.le_refl _)

theorem detach?_evolves (n : m.Numbered) (h : m.detach? id = some m') :
    Evolves m (.move (.detach id)) m' := by
  obtain ⟨s, hs, rfl, hp, rfl⟩ := detach?_cases h
  exact .of_quiet_update n hs rfl (.detached hp) (sameDeliveries_of_eq rfl) (Nat.le_refl _)

theorem release?_evolves (n : m.Numbered) (h : m.release? id = some m') :
    Evolves m (.move (.release id)) m' := by
  obtain ⟨s, hs, rfl, hp, hl, mask, hmask, ⟨rfl, rfl⟩ | ⟨hz, rfl⟩⟩ := release?_cases h
  · exact .of_quiet_update n hs rfl (.released hp hl hmask)
      (.trans (sameDeliveries_of_eq rfl) (sameDeliveries_reap _ _)) (Nat.le_refl _)
  · exact .of_quiet_update n hs rfl (.called mask hp hl hmask hz) (sameDeliveries_of_eq rfl)
      (Nat.le_refl _)

theorem unregister?_evolves (n : m.Numbered) (h : m.unregister? id = some m') :
    Evolves m (.move (.unregister id)) m' := by
  obtain ⟨s, hs, rfl, mask, hp, -, rfl⟩ := unregister?_cases h
  have hcall : SameDeliveries m (m.afterUnregister s.key mask) := sameDeliveries_call m _ _ _ _
  exact .of_quiet_update n hs rfl (.returned mask hp)
    (.trans hcall (.trans (sameDeliveries_of_eq rfl) (sameDeliveries_reap _ _))) (Nat.le_refl _)

theorem close?_evolves (n : m.Numbered) (h : m.close? id = some m') :
    Evolves m (.move (.close id)) m' := by
  obtain ⟨s, hs, rfl, hp, rfl⟩ := close?_cases h
  exact .of_quiet_update n hs rfl (.closed hp) (sameDeliveries_of_eq rfl) (Nat.le_refl _)

theorem finish?_evolves (n : m.Numbered) (h : m.finish? id = some m') :
    Evolves m (.move (.finish id)) m' := by
  obtain ⟨s, hs, rfl, hp, rfl⟩ := finish?_cases h
  exact .of_quiet_update n hs rfl (.finished hp) (sameDeliveries_of_eq rfl) (Nat.le_refl _)

theorem launch?_evolves (h : m.launch? i = some m') : Evolves m (.move (.launch i)) m' := by
  obtain ⟨f, -, -, -, firings, rfl⟩ := launch?_cases h
  exact .of_same _ rfl (sameDeliveries_of_eq rfl) (Nat.le_refl _)

theorem report?_evolves (h : m.report? i = some m') : Evolves m (.move (.report i)) m' := by
  obtain ⟨f, -, -, -, rfl⟩ := report?_cases h
  exact .of_same _ rfl
    (.trans (sameDeliveries_of_eq rfl) (sameDeliveries_note _ _ fun _ => ⟨rfl, rfl⟩)) (Nat.le_refl _)

theorem callBack?_evolves (n : m.Numbered) (h : m.callBack? i = some m') :
    Evolves m (.move (.callBack i)) m' := by
  obtain ⟨f, target, rest, o, -, -, hd, rfl⟩ := callBack?_cases h
  have hnote : SameDeliveries o { o.note (.callback f.engine target) with
      firings := o.firings.eraseIdx i ++ [{ f with targets := rest }] } :=
    .trans (sameDeliveries_note _ _ fun _ => ⟨rfl, rfl⟩) (sameDeliveries_of_eq rfl)
  cases hd with
  | recorded =>
    exact .of_same _ rfl (.trans (sameDeliveries_note _ _ fun _ => ⟨rfl, rfl⟩) hnote) (Nat.le_refl _)
  | ignored => exact .of_same _ rfl hnote (Nat.le_refl _)
  | accepted s v hs _ hreg _ hc hroom =>
    refine .of_update n hs rfl (.accepted i v hc hreg hroom) ?_ ?_ (Nat.le_refl _)
    · intro k
      rw [(hnote k).1]
      by_cases hk : k = s.id
      · simp [accept, accepted_note, Event.acceptedBy?, hk]
      · simp [accept, accepted_note, Event.acceptedBy?, hk, Ne.symm hk]
    · intro k
      rw [(hnote k).2]
      simp [accept, yielded_note, Event.yieldedBy?]

theorem sameDeliveries_fail (m : Monitor) (r : Request) (f : Failure) :
    SameDeliveries m (m.fail r f) :=
  .trans (sameDeliveries_note _ _ fun _ => ⟨rfl, rfl⟩) (sameDeliveries_reap _ _)

theorem sameDeliveries_askPolicy (m : Monitor) (r : Request) :
    SameDeliveries m (m.askPolicy r).2 := sameDeliveries_call m _ _ _ _

theorem sameDeliveries_askRegistration (m : Monitor) (r : Request) :
    SameDeliveries m (m.askRegistration r).2 :=
  .trans (sameDeliveries_of_eq rfl) (sameDeliveries_call _ _ _ _ _)

theorem sameDeliveries_join (m : Monitor) (r : Request) : SameDeliveries m (m.join r) :=
  .of_journal [.subscribed r.ticket (.ok m.lastId)] rfl (by simp [Event.acceptedBy?, Event.yieldedBy?])

theorem enter?_evolves (h : m.enter? i = some m') : Evolves m (.move (.enter i)) m' := by
  obtain ⟨r, hr, hl, hm⟩ := enter?_cases h
  have hbase : SameDeliveries m { m with requests := m.requests.eraseIdx i } :=
    sameDeliveries_of_eq rfl
  have hpolicy := hbase.trans (sameDeliveries_askPolicy _ r)
  have hend := enrol_cases { m with requests := m.requests.eraseIdx i } r
  rw [← hm] at hend
  cases hend with
  | policyRefused refused =>
    exact .of_same _ rfl (hpolicy.trans (sameDeliveries_fail _ _ _)) (Nat.le_refl _)
  | registrationRefused n hn accepted refused =>
    subst hn
    have hasked := hpolicy.trans (sameDeliveries_askRegistration _ r)
    exact .of_same _ rfl ((hasked.trans (sameDeliveries_of_eq rfl)).trans (sameDeliveries_fail _ _ _))
      (Nat.le_succ _)
  | joined n hn accepted registered =>
    subst hn
    have hall := (hpolicy.trans (sameDeliveries_askRegistration _ r)).trans (sameDeliveries_join _ r)
    refine ⟨id, [r.subscription (m.lastId + 1) (m.scopeOf r.token)], ?_, ?_, fun k _ => hall k, ?_,
      Nat.le_succ _⟩
    · rw [List.map_id]
      rfl
    · intro s _
      exact ⟨[], [], .same _, by simpa using (hall s.id).1, by simpa using (hall s.id).2⟩
    · exact .inr ⟨_, rfl, ⟨i, r, rfl, hr, hl, rfl⟩, Nat.le_refl _⟩

end moves

theorem act?_evolves {m m' : Monitor} {a : Action} (n : m.Numbered) (h : m.act? a = some m') :
    Evolves m a m' := by
  cases a with
  | addEngine | set | addToken | fire | fireAt =>
    cases h
    exact .of_same _ rfl (sameDeliveries_of_eq rfl) (Nat.le_refl _)
  | openAt | openAny =>
    cases h
    exact adopt_evolves m _ _
  | errorString e code =>
    cases h
    exact errorString_evolves m _ e code
  | activate e =>
    simp only [act?] at h
    split at h
    · cases h
      exact replaceActive_evolves m _ _ _
    · cases h
  | deactivate =>
    cases h
    exact replaceActive_evolves m _ _ _
  | disown e =>
    simp only [act?] at h
    split at h
    · cases h
      exact .of_same _ rfl (.trans (sameDeliveries_of_eq rfl) (sameDeliveries_reap _ _)) (Nat.le_refl _)
    · cases h
  | cancelToken token =>
    cases h
    exact cancelToken_evolves m _ token
  | ask ticket w =>
    cases h
    exact ask_evolves m _ ticket w
  | cancel id =>
    cases h
    exact cancel_evolves m _ id
  | dropReader id =>
    cases h
    exact dropReader_evolves m id
  | receive id =>
    cases h
    exact receive_evolves n id
  | collect engine q script =>
    cases h
    exact collect_evolves m _ engine q script
  | snapshot engine entities fields flags script =>
    cases h
    exact snapshot_evolves m _ engine entities fields flags script
  | move mv =>
    cases mv with
    | enter => exact enter?_evolves h
    | start => exact start?_evolves n h
    | take => exact take?_evolves n h
    | send => exact send?_evolves n h
    | leave => exact leave?_evolves n h
    | detach => exact detach?_evolves n h
    | release => exact release?_evolves n h
    | unregister => exact unregister?_evolves n h
    | close => exact close?_evolves n h
    | finish => exact finish?_evolves n h
    | launch => exact launch?_evolves h
    | callBack => exact callBack?_evolves n h
    | report => exact report?_evolves h

end Monitor

end GpuTelemetry
