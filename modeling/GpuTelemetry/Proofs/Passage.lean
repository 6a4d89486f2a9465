import GpuTelemetry.Proofs.Lifecycle

namespace GpuTelemetry

def ofKind (c : Condition) (vs : List Violation) : List Violation := vs.filter (·.condition == c)

@[simp] theorem ofKind_nil (c : Condition) : ofKind c [] = [] := rfl

@[simp] theorem ofKind_append (c : Condition) (vs ws : List Violation) :
    ofKind c (vs ++ ws) = ofKind c vs ++ ofKind c ws := List.filter_append ..

theorem ofKind_cons (c : Condition) (v : Violation) (vs : List Violation) :
    ofKind c (v :: vs) = if v.condition = c then v :: ofKind c vs else ofKind c vs := by
  simp [ofKind, List.filter_cons]

structure Subscription.Passes (s : Subscription) (accepted yielded : List Violation) : Prop where
  kind : ∀ c, ∀ v ∈ s.slots c, v.condition = c
  watched : ∀ v ∈ accepted, v.condition ∈ s.conditions
  kept : s.scope.fired = false → ∀ c,
    ofKind c accepted = ofKind c yielded ++ ofKind c s.output ++ ofKind c s.hand.toList ++ s.slots c
  inOrder : ∀ c, ofKind c yielded <+: ofKind c accepted

namespace Subscription.Step

variable {m : Monitor} {s s' : Subscription} {A Y : List Violation}

theorem passes_of_same (p : s.Passes A Y) (slots : s'.slots = s.slots) (hand : s'.hand = s.hand)
    (output : s'.output = s.output) (conditions : s'.conditions = s.conditions)
    (fired : s'.scope.fired = false → s.scope.fired = false) : s'.Passes A Y where
  kind := slots ▸ p.kind
  watched := conditions ▸ p.watched
  kept hf c := by
    rw [slots, hand, output]
    exact p.kept (fired hf) c
  inOrder := p.inOrder

theorem passes_of_fired (p : s.Passes A Y) (slots : ∀ c, ∀ v ∈ s'.slots c, v ∈ s.slots c)
    (conditions : s'.conditions = s.conditions) (fired : s'.scope.fired = true) :
    s'.Passes A Y where
  kind c v hv := p.kind c v (slots c v hv)
  watched := conditions ▸ p.watched
  kept hf := by simp [fired] at hf
  inOrder := p.inOrder

theorem passes_accepted (p : s.Passes A Y) (v : Violation) (watched : v.condition ∈ s.conditions) :
    Passes { s with slots := assign s.slots v.condition (s.slots v.condition ++ [v]) }
      (A ++ [v]) Y where
  kind c w hw := by
    by_cases hc : c = v.condition
    · subst hc
      simp only [assign_self, List.mem_append, List.mem_singleton] at hw
      obtain hw | rfl := hw
      · exact p.kind _ w hw
      · rfl
    · simp only [assign_of_ne _ _ hc] at hw
      exact p.kind c w hw
  watched w hw := by
    obtain hw | hw := List.mem_append.mp hw
    · exact p.watched w hw
    · rwa [List.mem_singleton.mp hw]
  kept hf c := by
    by_cases hc : c = v.condition
    · subst hc
      simp [p.kept hf, ofKind_cons]
    · simp [p.kept hf, ofKind_cons, hc, Ne.symm hc]
  inOrder c := by
    rw [ofKind_append]
    exact (p.inOrder c).trans (List.prefix_append _ _)

theorem passes_taken (p : s.Passes A Y) {c : Condition} {v : Violation} {rest : List Violation}
    (free : s.hand = none) (ready : s.slots c = v :: rest) :
    Passes { s with hand := some v, slots := assign s.slots c rest } A Y := by
  have hv : v.condition = c := p.kind c v (by simp [ready])
  refine ⟨fun k w hw => ?_, p.watched, fun hf k => ?_, p.inOrder⟩
  · by_cases hk : k = c
    · subst hk
      simp only [assign_self] at hw
      exact p.kind k w (by simp [ready, hw])
    · simp only [assign_of_ne _ _ hk] at hw
      exact p.kind k w hw
  · rw [p.kept hf k]
    by_cases hk : k = c
    · subst hk
      simp [free, ready, ofKind_cons, hv]
    · simp [free, ofKind_cons, hv, hk, Ne.symm hk]

theorem passes_sent (p : s.Passes A Y) {v : Violation} (held : s.hand = some v) :
    Passes { s with hand := none, output := s.output ++ [v] } A Y where
  kind := p.kind
  watched := p.watched
  kept hf c := by simp [p.kept hf, held]
  inOrder := p.inOrder

theorem passes_yielded (p : s.Passes A Y) {v : Violation} {rest : List Violation}
    (live : s.scope.fired = false) (buffered : s.output = v :: rest) :
    Passes { s with output := rest } A (Y ++ [v]) := by
  have split (c : Condition) : ofKind c A =
      ofKind c (Y ++ [v]) ++ (ofKind c rest ++ ofKind c s.hand.toList ++ s.slots c) := by
    have hcons : ofKind c s.output = ofKind c [v] ++ ofKind c rest := by
      rw [buffered, ← ofKind_append]
      rfl
    simp [p.kept live c, hcons]
  refine ⟨p.kind, p.watched, fun _ c => ?_, fun c => ⟨_, (split c).symm⟩⟩
  simp [split c]

theorem passes {a : Action} {acc out : List Violation} (h : s.Step m a acc out s')
    (t : s'.Tidy) (p : s.Passes A Y) : s'.Passes (A ++ acc) (Y ++ out) := by
  cases h with
  | same | started | released | called | returned | closed | finished =>
    rw [List.append_nil, List.append_nil]
    exact passes_of_same p rfl rfl rfl rfl fun hf => hf
  | cancelled | dropped =>
    rw [List.append_nil, List.append_nil]
    exact passes_of_fired p (fun _ _ hv => hv) rfl rfl
  | accepted i v watched attached room =>
    rw [List.append_nil]
    exact passes_accepted p v watched
  | yielded v rest live buffered =>
    rw [List.append_nil]
    exact passes_yielded p live buffered
  | discarded fired =>
    rw [List.append_nil, List.append_nil]
    exact passes_of_fired p (fun _ _ hv => hv) rfl fired
  | taken c v rest phase free ready =>
    rw [List.append_nil, List.append_nil]
    exact passes_taken p free ready
  | sent v phase held room =>
    rw [List.append_nil, List.append_nil]
    exact passes_sent p held
  | left =>
    rw [List.append_nil, List.append_nil]
    exact passes_of_fired p (fun _ _ hv => hv) rfl (t.fired rfl)
  | detached =>
    rw [List.append_nil, List.append_nil]
    exact passes_of_fired p (fun _ _ hv => by cases hv) rfl (t.fired rfl)

end Subscription.Step

namespace Monitor

theorem Reachable.passes {m : Monitor} (h : Reachable m) :
    ∀ s ∈ m.subscriptions, s.Passes (m.accepted s.id) (m.yielded s.id) := by
  refine h.induction (P := fun m => ∀ s ∈ m.subscriptions, s.Passes (m.accepted s.id)
    (m.yielded s.id)) (by simp) ?_
  intro m a m' hr ih h s' hs'
  have hm' : Reachable m' := hr.act h
  have hev := hr.evolves h
  obtain ⟨s, hs, acc, out, step, hacc, hout⟩ | ⟨i, r, -, -, -, rfl⟩ := hev.origin hs'
  · rw [step.id_eq, hacc, hout]
    exact step.passes (hm'.tidy s' hs') (ih s hs)
  · have hlt : m.lastId < m.lastId + 1 := Nat.lt_succ_self _
    obtain ⟨hacc, hout⟩ := hr.silent _ hlt
    obtain ⟨-, -, -, -, hsilent, -, -⟩ := hev
    obtain ⟨hacc', hout'⟩ := hsilent (m.lastId + 1) fun t ht he => by
      have := hr.numbered.le t ht
      omega
    simp only [Request.subscription, hacc', hout', hacc, hout]
    exact ⟨by simp, by simp, by simp, fun c => List.prefix_refl _⟩

def Received.toList : Received → List Violation
  | .occurrence v => [v]
  | .closed | .pending => []

def readBy (m : Monitor) (id : Nat) : Action → List Violation
  | .receive k => if k = id then (m.receive id).1.toList else []
  | _ => []

/-- What the calls of `receive` for a subscription have answered in the course of a run. -/
def received (m : Monitor) (id : Nat) : List Action → List Violation
  | [] => []
  | a :: as =>
    match m.act? a with
    | some n => m.readBy id a ++ n.received id as
    | none => []

section reader

variable {m n : Monitor} {s : Subscription} {a : Action} {v : Violation} {id : Nat}

theorem receiveNone_toList (m : Monitor) (s : Subscription) : (m.receiveNone s).1.toList = [] := by
  rw [receiveNone_fst]
  split <;> rfl

theorem receiveNone_journal (m : Monitor) (s : Subscription) :
    (m.receiveNone s).2.journal ≠ .yielded id v :: m.journal := by
  unfold receiveNone
  split
  · simp [note]
  · exact (List.cons_ne_self _ _).symm

theorem receive_eq_occurrence_iff (numbered : m.Numbered) (hs : s ∈ m.subscriptions) :
    (m.receive s.id).1 = .occurrence v ↔ s.scope.fired = false ∧ s.output.head? = some v := by
  have hnone (n : Monitor) : (n.receiveNone s).1 ≠ .occurrence v := by
    intro h
    have := receiveNone_toList n s
    simp [h, Received.toList] at this
  rw [receive, numbered.subscription?_of_mem hs]
  cases hf : s.scope.fired with
  | true => simpa [hf] using hnone _
  | false =>
    cases hout : s.output with
    | nil => simpa [hf, hout] using hnone m
    | cons w rest => simp [hf, hout]

theorem receive_journal_iff (numbered : m.Numbered) (hs : s ∈ m.subscriptions) :
    (m.receive s.id).2.journal = .yielded s.id v :: m.journal ↔
      s.scope.fired = false ∧ s.output.head? = some v := by
  rw [receive, numbered.subscription?_of_mem hs]
  cases hf : s.scope.fired with
  | true =>
    let emptied := m.update s.id fun s => { s with output := [] }
    have hnone : (emptied.receiveNone s).2.journal ≠ .yielded s.id v :: m.journal :=
      receiveNone_journal emptied s
    simpa [hf] using hnone
  | false =>
    cases hout : s.output with
    | nil => simpa [hf, hout] using receiveNone_journal m s
    | cons w rest => simp [hf, hout, note, update]

theorem yielded_receive (m : Monitor) (id : Nat) :
    (m.receive id).2.yielded id = m.yielded id ++ (m.receive id).1.toList := by
  unfold receive
  split
  · exact (List.append_nil _).symm
  · rename_i s hs
    split
    · rw [receiveNone_toList, List.append_nil]
      exact (sameDeliveries_receiveNone _ s id).2
    · split
      · exact (yielded_note ..).trans (by simp [Event.yieldedBy?, Received.toList])
      · rw [receiveNone_toList, List.append_nil]
        exact (sameDeliveries_receiveNone m s id).2

theorem Reachable.yielded_act (h : Reachable m) (ha : m.act? a = some n) (id : Nat) :
    n.yielded id = m.yielded id ++ m.readBy id a := by
  have hother (unread : a ≠ .receive id) (silent : m.readBy id a = []) :
      n.yielded id = m.yielded id ++ m.readBy id a := by
    rw [silent, List.append_nil]
    exact (h.evolves ha).yielded_eq unread
  cases a with
  | receive k =>
    by_cases hk : k = id
    · subst hk
      cases ha
      rw [readBy, if_pos rfl]
      exact yielded_receive m k
    · exact hother (by simpa using hk) (if_neg hk)
  | _ => exact hother (by simp) rfl

theorem Reachable.yielded_run {as : List Action} (h : Reachable m) (hrun : m.run? as = some n)
    (id : Nat) : n.yielded id = m.yielded id ++ m.received id as := by
  induction as generalizing m with
  | nil =>
    cases hrun
    exact (List.append_nil _).symm
  | cons a as ih =>
    rw [run?_cons, Option.bind_eq_some_iff] at hrun
    obtain ⟨k, ha, hk⟩ := hrun
    rw [ih (h.act ha) hk, h.yielded_act ha, received, ha, List.append_assoc]

end reader

/-- For every subscription and every condition: until the subscription is cancelled, what its slot has
accepted is what the calls of `receive` have answered, then what waits in the output, then what the task
holds, then what the slot still has; after that what they have answered is still a first part of it. -/
theorem passage_in_order {m : Monitor} {as : List Action} (h : run? {} as = some m)
    {s : Subscription} (hs : s ∈ m.subscriptions) (c : Condition) :
    (s.scope.fired = false → ofKind c (m.accepted s.id) =
      ofKind c (received {} s.id as) ++ ofKind c s.output ++ ofKind c s.hand.toList ++ s.slots c) ∧
    ofKind c (received {} s.id as) <+: ofKind c (m.accepted s.id) ∧
    (∀ v ∈ m.accepted s.id, v.condition ∈ s.conditions) ∧
    m.yielded s.id = received {} s.id as ∧
    ∀ v, ((m.receive s.id).1 = .occurrence v ↔ s.scope.fired = false ∧ s.output.head? = some v) ∧
      ((m.receive s.id).1 = .occurrence v ↔
        (m.receive s.id).2.journal = .yielded s.id v :: m.journal) := by
  have hr : Reachable m := ⟨as, h⟩
  have p := hr.passes s hs
  have hread : m.yielded s.id = received {} s.id as := by
    have start : Reachable {} := ⟨[], rfl⟩
    simpa [yielded] using start.yielded_run h s.id
  have hanswer (v : Violation) : (m.receive s.id).1 = .occurrence v ↔
      s.scope.fired = false ∧ s.output.head? = some v := receive_eq_occurrence_iff hr.numbered hs
  rw [← hread]
  exact ⟨fun hf => p.kept hf c, p.inOrder c, p.watched, rfl, fun v => ⟨hanswer v,
    (hanswer v).trans (receive_journal_iff hr.numbered hs).symm⟩⟩

def relay : List Action :=
  [.addEngine, .activate 0, .addToken none, .ask 0 { conditions := [.xid, .thermal], token := 0 },
    .move (.enter 0), .move (.start 1), .fire 1 0 (.report .thermal 0 90 0) 4 false] ++
  [.move (.launch 0), .move (.callBack 0), .move (.take 1 .thermal), .move (.send 1), .receive 1] ++
  [.move (.launch 0), .move (.callBack 0), .move (.take 1 .thermal), .move (.send 1)] ++
  [.move (.launch 0), .move (.callBack 0), .move (.take 1 .thermal)] ++
  [.move (.launch 0), .move (.callBack 0)]

theorem passage_of_four_reports : ∃ m s v, run? {} relay = some m ∧ s ∈ m.subscriptions ∧
    s.scope.fired = false ∧ (m.accepted s.id).length = 4 ∧
    ofKind .thermal (m.accepted s.id) = ofKind .thermal (received {} s.id relay) ++
      ofKind .thermal s.output ++ ofKind .thermal s.hand.toList ++ s.slots .thermal ∧
    (received {} s.id relay).map (·.detail) = [.thermal 90] ∧ v.detail = .thermal 91 ∧
    (m.receive s.id).1 = .occurrence v ∧
    (m.receive s.id).2.journal = .yielded s.id v :: m.journal := by
  let m := (run? {} relay).get (by decide +kernel)
  have hm : run? {} relay = some m := by simp [m]
  obtain ⟨s, hs, hf, hlen, hread, v, hv, hhead⟩ : ∃ s ∈ m.subscriptions, s.scope.fired = false ∧
      (m.accepted s.id).length = 4 ∧ (received {} s.id relay).map (·.detail) = [.thermal 90] ∧
      ∃ v ∈ s.output, v.detail = .thermal 91 ∧ s.output.head? = some v := by decide +kernel
  obtain ⟨hkept, -, -, -, hanswers⟩ := passage_in_order hm hs .thermal
  obtain ⟨hanswer, hjournal⟩ := hanswers v
  have hnow : (m.receive s.id).1 = .occurrence v := hanswer.mpr ⟨hf, hhead.2⟩
  exact ⟨m, s, v, hm, hs, hf, hlen, hkept hf, hread, hhead.1, hnow, hjournal.mp hnow⟩

end Monitor

end GpuTelemetry
