import GpuTelemetry.Proofs.Frames
import GpuTelemetry.Proofs.Tables

/-!
What the journal says of the calls that set up a subscription. A request that gets its lock sets the
policy of its group, once, and then registers at most once, with the next number; nothing else makes
such calls.
-/

namespace GpuTelemetry

namespace Event

def policySet? : Event → Option (GroupKey × Policy)
  | .called e (.setPolicy g p) _ => some (⟨e, g⟩, p)
  | _ => none

def issued? : Event → Option Nat
  | .called _ (.register _ _ id) _ => some id
  | _ => none

end Event

namespace Monitor

def said {β : Type} (m : Monitor) (read : Event → Option β) : List β :=
  (m.journal.filterMap read).reverse

def policySets (m : Monitor) : List (GroupKey × Policy) := m.said Event.policySet?

def issued (m : Monitor) : List Nat := m.said Event.issued?

section said

variable {β : Type} {read : Event → Option β} {m m' : Monitor}

theorem Frame.said {a : Action} (h : Frame m a m') (silent : ∀ e, a.logs e = true → read e = none) :
    m'.said read = m.said read := by
  obtain ⟨events, hj, hlogs⟩ := h.journal
  have hnone : events.filterMap read = [] :=
    List.filterMap_eq_nil_iff.mpr fun e he => silent e (hlogs e he)
  simp [Monitor.said, hj, hnone]

theorem said_note (m : Monitor) (e : Event) :
    (m.note e).said read = m.said read ++ (read e).toList := by
  simp only [said, note, List.filterMap_cons]
  cases read e <;> simp

variable (native : ∀ engine call, read (.native engine call) = none)
include native

theorem said_noteNative (m : Monitor) (engine : Option Nat) (calls : List Native.Call) :
    (m.noteNative engine calls).said read = m.said read := by
  have hnone : (calls.map (Event.native engine)).reverse.filterMap read = [] := by
    simp [native]
  simp [said, noteNative, hnone]

theorem said_reap (m : Monitor) (e : Nat) : (m.reap e).said read = m.said read :=
  said_noteNative native (m.adjust e fun _ =>
    (if m.isReferenced e then (m.engines e, []) else (m.engines e).giveBack).1) _ _

theorem said_call {α : Type} (m : Monitor) (e : Nat) (what : EngineCall)
    (answer : α → Option Status) (act : Engine → α × Engine × List Native.Call) :
    (m.call e what answer act).2.said read =
      m.said read ++ (read (.called e what (answer (act (m.engines e)).1))).toList :=
  (said_noteNative native ((m.note (.called e what (answer (act (m.engines e)).1))).adjust e
    fun _ => (act (m.engines e)).2.1) _ _).trans (said_note m _)

theorem said_fail (m : Monitor) (r : Request) (f : Failure)
    (silent : read (.subscribed r.ticket (.error f)) = none) :
    (m.fail r f).said read = m.said read := by
  refine (said_reap native (m.note (.subscribed r.ticket (.error f))) _).trans ?_
  rw [said_note, silent]
  simp

end said

variable {m m' : Monitor} (r : Request)

theorem askPolicy_said (m : Monitor) :
    (m.askPolicy r).2.policySets = m.policySets ++ [(r.key, m.policyFor r)] ∧
      (m.askPolicy r).2.issued = m.issued :=
  ⟨said_call (fun _ _ => rfl) m _ (.setPolicy r.key.group (m.policyFor r)) _ _,
    (said_call (fun _ _ => rfl) m _ (.setPolicy r.key.group (m.policyFor r)) _ _).trans
      (List.append_nil _)⟩

theorem askRegistration_said (m : Monitor) :
    (m.askRegistration r).2.policySets = m.policySets ∧
      (m.askRegistration r).2.issued = m.issued ++ [m.lastId + 1] := by
  let entered : Monitor := { m with lastId := m.lastId + 1, registry := (m.lastId + 1) :: m.registry }
  exact ⟨(said_call (fun _ _ => rfl) entered _ (.register r.key.group
      (Condition.maskOf r.conditions) (m.lastId + 1)) _ _).trans (List.append_nil _),
    said_call (fun _ _ => rfl) entered _ (.register r.key.group (Condition.maskOf r.conditions)
      (m.lastId + 1)) _ _⟩

theorem fail_said (m : Monitor) (f : Failure) :
    (m.fail r f).policySets = m.policySets ∧ (m.fail r f).issued = m.issued :=
  ⟨said_fail (fun _ _ => rfl) m r f rfl, said_fail (fun _ _ => rfl) m r f rfl⟩

inductive Sets (m : Monitor) : Action → Monitor → Prop
  | none {a : Action} {m' : Monitor} (policies : m'.policySets = m.policySets)
      (numbers : m'.issued = m.issued) (last : m'.lastId = m.lastId) : Sets m a m'
  | policy {i : Nat} {m' : Monitor} (r : Request) (waits : m.requests[i]? = some r)
      (policies : m'.policySets = m.policySets ++ [(r.key, m.policyFor r)])
      (numbers : m'.issued = m.issued) (last : m'.lastId = m.lastId) :
      Sets m (.move (.enter i)) m'
  | both {i : Nat} {m' : Monitor} (r : Request) (waits : m.requests[i]? = some r)
      (policies : m'.policySets = m.policySets ++ [(r.key, m.policyFor r)])
      (numbers : m'.issued = m.issued ++ [m.lastId + 1]) (last : m'.lastId = m.lastId + 1) :
      Sets m (.move (.enter i)) m'

theorem enter?_sets {i : Nat} (h : m.enter? i = some m') : Sets m (.move (.enter i)) m' := by
  obtain ⟨r, waits, -, hm⟩ := enter?_cases h
  have hend := enrol_cases { m with requests := m.requests.eraseIdx i } r
  obtain ⟨hpolicies, hnumbers⟩ := askPolicy_said r { m with requests := m.requests.eraseIdx i }
  rw [← hm] at hend
  cases hend with
  | policyRefused refused =>
    obtain ⟨hp, hn⟩ := fail_said r ({ m with requests := m.requests.eraseIdx i }.askPolicy r).2
      (.ofStatus Native.Symbol.policySet.name
        ({ m with requests := m.requests.eraseIdx i }.askPolicy r).1)
    exact .policy r waits (hp.trans hpolicies) (hn.trans hnumbers) rfl
  | registrationRefused n hn accepted refused =>
    obtain ⟨hp, hi⟩ := askRegistration_said r n
    obtain ⟨hp', hi'⟩ := fail_said r { (n.askRegistration r).2 with registry := m.registry }
      (.ofStatus Native.Symbol.policyRegister.name (n.askRegistration r).1)
    subst hn
    refine .both r waits ((hp'.trans hp).trans hpolicies) ((hi'.trans hi).trans ?_) rfl
    rw [hnumbers]
    rfl
  | joined n hn accepted registered =>
    obtain ⟨hp, hi⟩ := askRegistration_said r n
    have hjoin (n : Monitor) : (n.join r).policySets = n.policySets ∧ (n.join r).issued = n.issued :=
      ⟨(said_note n (.subscribed r.ticket (.ok n.lastId))).trans (List.append_nil _),
        (said_note n (.subscribed r.ticket (.ok n.lastId))).trans (List.append_nil _)⟩
    obtain ⟨hp', hi'⟩ := hjoin (n.askRegistration r).2
    subst hn
    refine .both r waits ((hp'.trans hp).trans hpolicies) ((hi'.trans hi).trans ?_) rfl
    rw [hnumbers]
    rfl

theorem act?_lastId {a : Action} (enters : ∀ i, a ≠ .move (.enter i)) (h : m.act? a = some m') :
    m'.lastId = m.lastId := by
  cases ha : a.changesTables with
  | false => exact (act?_sameTables h ha).lastId
  | true =>
    cases a with
    | move mv =>
      cases mv with
      | enter i => exact absurd rfl (enters i)
      | detach id =>
        obtain ⟨s, -, -, -, rfl⟩ := detach?_cases h
        rfl
      | release id =>
        obtain ⟨s, -, -, -, -, mask, -, ⟨-, rfl⟩ | ⟨-, rfl⟩⟩ := release?_cases h <;> rfl
      | unregister id =>
        obtain ⟨s, -, -, mask, -, -, rfl⟩ := unregister?_cases h
        rfl
      | _ => cases ha
    | _ => cases ha

theorem not_setup_of_logs {a : Action} (enters : ∀ i, a ≠ .move (.enter i)) {e : Event}
    (h : a.logs e = true) : e.policySet? = none ∧ e.issued? = none := by
  cases e with
  | called engine what answer =>
    cases what with
    | setPolicy | register =>
      cases a with
      | move mv =>
        cases mv with
        | enter i => exact absurd rfl (enters i)
        | _ => cases h
      | _ => cases h
    | _ => exact ⟨rfl, rfl⟩
  | _ => exact ⟨rfl, rfl⟩

theorem act?_sets {a : Action} (h : m.act? a = some m') : Sets m a m' := by
  by_cases enters : ∃ i, a = .move (.enter i)
  · obtain ⟨i, rfl⟩ := enters
    exact enter?_sets h
  · have enters : ∀ i, a ≠ .move (.enter i) := fun i ha => enters ⟨i, ha⟩
    have frame := act?_frame h
    exact .none (frame.said fun e he => (not_setup_of_logs enters he).1)
      (frame.said fun e he => (not_setup_of_logs enters he).2) (act?_lastId enters h)

theorem Reachable.issued_eq (h : Reachable m) : m.issued = List.range' 1 m.lastId := by
  apply h.induction (P := fun m => m.issued = List.range' 1 m.lastId) rfl
  intro m a m' _ ih ha
  cases act?_sets ha with
  | none policies numbers last => rw [numbers, last, ih]
  | policy r waits policies numbers last => rw [numbers, last, ih]
  | both r waits policies numbers last =>
    rw [numbers, last, ih, List.range'_1_concat]
    simp [Nat.add_comm]

end Monitor

end GpuTelemetry
