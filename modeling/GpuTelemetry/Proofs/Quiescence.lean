import GpuTelemetry.Proofs.ReferenceCounts
import GpuTelemetry.Proofs.Termination

namespace GpuTelemetry.Monitor

variable {m m' : Monitor} {s : Subscription} {i : Nat}

def Quiet (m : Monitor) : Prop := ∀ mv, m.move? mv = none

def Unheld (m : Monitor) : Prop :=
  ∀ s ∈ m.subscriptions, s.phase.isCalling = true → (m.engines s.key.engine).held = false

section moves

theorem mem_moves_of_task {id : Nat} {mv : Move} (known : ∃ s ∈ m.subscriptions, s.id = id)
    (h : mv ∈ taskMoves id) : mv ∈ m.moves := by
  obtain ⟨s, hs, rfl⟩ := known
  simp only [moves, List.mem_append, List.mem_flatMap]
  exact .inl (.inl ⟨s, hs, h⟩)

theorem mem_moves_of_thread {mv : Move} (known : i < m.firings.length) (h : mv ∈ firingMoves i) :
    mv ∈ m.moves := by
  simp only [moves, List.mem_append, List.mem_flatMap]
  exact .inr ⟨i, List.mem_range.mpr known, h⟩

theorem mem_moves {mv : Move} (h : m.move? mv = some m') : mv ∈ m.moves := by
  cases mv with
  | enter i =>
    obtain ⟨r, hr, -, -⟩ := enter?_cases h
    simp only [moves, List.mem_append, List.mem_map]
    exact .inl (.inr ⟨i, List.mem_range.mpr (List.getElem?_eq_some_iff.mp hr).1, rfl⟩)
  | start id =>
    obtain ⟨s, hs, hid, -⟩ := start?_cases h
    exact mem_moves_of_task ⟨s, hs, hid⟩ (by simp [taskMoves])
  | take id c =>
    obtain ⟨s, hs, hid, -⟩ := take?_cases h
    exact mem_moves_of_task ⟨s, hs, hid⟩ (by simp [taskMoves, Condition.mem_all])
  | send id =>
    obtain ⟨s, hs, hid, -⟩ := send?_cases h
    exact mem_moves_of_task ⟨s, hs, hid⟩ (by simp [taskMoves])
  | leave id =>
    obtain ⟨s, hs, hid, -⟩ := leave?_cases h
    exact mem_moves_of_task ⟨s, hs, hid⟩ (by simp [taskMoves])
  | detach id =>
    obtain ⟨s, hs, hid, -⟩ := detach?_cases h
    exact mem_moves_of_task ⟨s, hs, hid⟩ (by simp [taskMoves])
  | release id =>
    obtain ⟨s, hs, hid, -⟩ := release?_cases h
    exact mem_moves_of_task ⟨s, hs, hid⟩ (by simp [taskMoves])
  | unregister id =>
    obtain ⟨s, hs, hid, -⟩ := unregister?_cases h
    exact mem_moves_of_task ⟨s, hs, hid⟩ (by simp [taskMoves])
  | close id =>
    obtain ⟨s, hs, hid, -⟩ := close?_cases h
    exact mem_moves_of_task ⟨s, hs, hid⟩ (by simp [taskMoves])
  | finish id =>
    obtain ⟨s, hs, hid, -⟩ := finish?_cases h
    exact mem_moves_of_task ⟨s, hs, hid⟩ (by simp [taskMoves])
  | launch i =>
    obtain ⟨f, hf, -⟩ := launch?_cases h
    exact mem_moves_of_thread (List.getElem?_eq_some_iff.mp hf).1 (by simp [firingMoves])
  | callBack i =>
    obtain ⟨f, target, rest, n, hf, -⟩ := callBack?_cases h
    exact mem_moves_of_thread (List.getElem?_eq_some_iff.mp hf).1 (by simp [firingMoves])
  | report i =>
    obtain ⟨f, hf, -⟩ := report?_cases h
    exact mem_moves_of_thread (List.getElem?_eq_some_iff.mp hf).1 (by simp [firingMoves])

theorem next?_eq_none_iff : m.next? = none ↔ m.Quiet := by
  rw [next?, List.findSome?_eq_none_iff]
  constructor
  · intro h mv
    cases hmv : m.move? mv with
    | none => rfl
    | some m' => exact absurd (h mv (mem_moves hmv)) (by simp [hmv])
  · exact fun quiet mv _ => quiet mv

theorem next?_eq_some (h : m.next? = some m') : ∃ mv, m.move? mv = some m' := by
  obtain ⟨mv, -, hmv⟩ := List.exists_of_findSome?_eq_some h
  exact ⟨mv, hmv⟩

theorem settleIn_quiet (h : Reachable m) {fuel : Nat} (enough : m.work ≤ fuel) :
    (settleIn fuel m).Quiet := by
  induction fuel generalizing m with
  | zero =>
    intro mv
    cases hmv : m.move? mv with
    | none => exact hmv
    | some n =>
      have hless := move?_work h.numbered hmv
      omega
  | succ fuel ih =>
    unfold settleIn
    cases hnext : m.next? with
    | none => exact next?_eq_none_iff.mp hnext
    | some n =>
      obtain ⟨mv, hmv⟩ := next?_eq_some hnext
      have hless := move?_work h.numbered hmv
      exact ih (h.act (a := .move mv) hmv) (by omega)

theorem Reachable.settle_quiet (h : Reachable m) : m.settle.Quiet :=
  settleIn_quiet h (Nat.le_refl _)

end moves

section tasks

theorem turn?_of_mem (n : m.Numbered) (hs : s ∈ m.subscriptions) {ready : Subscription → Bool}
    {act : Subscription → Option Monitor} (h : ready s = true) :
    m.turn? s.id ready act = act s := by
  simp [turn?, n.subscription?_of_mem hs, h]

theorem Quiet.not_calling (q : m.Quiet) (u : m.Unheld) (n : m.Numbered) (hs : s ∈ m.subscriptions)
    (mask : UInt32) : s.phase ≠ .calling mask := by
  intro hp
  have hheld := u s hs (by simp [hp, Phase.isCalling])
  have hmove : m.unregister? s.id = none := q (.unregister s.id)
  rw [unregister?, turn?_of_mem n hs (by simp [hp, Phase.isCalling])] at hmove
  simp [hp, hheld] at hmove

theorem Quiet.free (q : m.Quiet) (u : m.Unheld) (n : m.Numbered) (key : GroupKey) :
    m.isLocked key = false := by
  apply List.any_eq_false.mpr
  intro s hs
  cases hp : s.phase with
  | calling mask => exact absurd hp (q.not_calling u n hs mask)
  | _ => simp [Phase.isCalling]

theorem Quiet.streaming (q : m.Quiet) (n : m.Numbered) (hs : s ∈ m.subscriptions)
    (attached : s.phase.isAttached = true) : s.phase = .streaming := by
  cases hp : s.phase with
  | streaming => rfl
  | registered =>
    have hmove : m.start? s.id = none := q (.start s.id)
    simp [start?, turn?_of_mem n hs, hp] at hmove
  | leaving =>
    have hmove : m.detach? s.id = none := q (.detach s.id)
    simp [detach?, turn?_of_mem n hs, hp] at hmove
  | _ => simp [hp, Phase.isAttached] at attached

theorem Quiet.finished (q : m.Quiet) (u : m.Unheld) (n : m.Numbered) (hs : s ∈ m.subscriptions)
    (gone : s.phase.isAttached = false) : s.phase = .finished := by
  cases hp : s.phase with
  | finished => rfl
  | calling mask => exact absurd hp (q.not_calling u n hs mask)
  | waiting =>
    have hmove : m.release? s.id = none := q (.release s.id)
    rw [release?, turn?_of_mem n hs (by simp [hp, q.free u n])] at hmove
    simp only at hmove
    split at hmove <;> cases hmove
  | released =>
    have hmove : m.close? s.id = none := q (.close s.id)
    simp [close?, turn?_of_mem n hs, hp] at hmove
  | closed =>
    have hmove : m.finish? s.id = none := q (.finish s.id)
    simp [finish?, turn?_of_mem n hs, hp] at hmove
  | registered | streaming | leaving => simp [hp, Phase.isAttached] at gone

theorem Quiet.not_stops (q : m.Quiet) (n : m.Numbered) (hs : s ∈ m.subscriptions)
    (streaming : s.phase = .streaming) : m.stops s = false := by
  have hmove : m.leave? s.id = none := q (.leave s.id)
  cases hstops : m.stops s with
  | false => rfl
  | true => simp [leave?, turn?_of_mem n hs, streaming, hstops] at hmove

theorem Quiet.jammed (q : m.Quiet) (n : m.Numbered) (hs : s ∈ m.subscriptions)
    (streaming : s.phase = .streaming) {c : Condition} (waiting : s.slots c ≠ []) :
    s.hand.isSome = true ∧ Limits.outputCapacity ≤ s.output.length := by
  obtain ⟨v, rest, hslot⟩ := List.exists_cons_of_ne_nil waiting
  have htake : m.take? s.id c = none := q (.take s.id c)
  have hsend : m.send? s.id = none := q (.send s.id)
  cases hhand : s.hand with
  | none => simp [take?, turn?_of_mem n hs, streaming, hhand, hslot] at htake
  | some w =>
    refine ⟨rfl, Nat.le_of_not_lt fun hroom => ?_⟩
    simp [send?, turn?_of_mem n hs, streaming, hhand, hroom] at hsend

theorem Quiet.no_requests (q : m.Quiet) (u : m.Unheld) (n : m.Numbered) : m.requests = [] := by
  cases hr : m.requests with
  | nil => rfl
  | cons r rest =>
    have hmove : m.enter? 0 = none := q (.enter 0)
    simp [enter?, hr, q.free u n r.key] at hmove

end tasks

theorem live_of_not_stops (h : m.stops s = false) (hand : s.hand.isSome = true) :
    s.scope.fired = false ∧ s.reader = true := by
  simp only [stops, hand, Bool.or_eq_false_iff, Bool.true_and, Bool.not_eq_false'] at h
  exact ⟨h.1.1, h.2⟩

/-- Whether a thread waits for `s` to take an occurrence `v`: the slot of its condition is full, and so
are the hand of the task and the output. -/
structure WaitsFor (m : Monitor) (f : Firing) (s : Subscription) (v : Violation) : Prop where
  next : ∃ target rest, f.targets = target :: rest ∧ target.user = s.id
  attached : s.id ∈ m.registry
  live : s.phase = .streaming ∧ s.scope.fired = false ∧ s.reader = true
  decoded : Violation.ofResponse? f.response = some v
  watched : v.condition ∈ s.conditions
  slot : (s.slots v.condition).length = 1
  hand : s.hand.isSome = true
  output : s.output.length = 32

theorem Quiet.turn (q : m.Quiet) (hr : Reachable m) {f : Firing} (hf : m.firings[i]? = some f) :
    ∃ target rest, f.targets = target :: rest ∧ m.deliver? f target = none := by
  have hle := hr.launched_le f (List.mem_of_getElem? hf)
  have hlaunch : m.launch? i = none := q (.launch i)
  have hreport : m.report? i = none := q (.report i)
  have hcall : m.callBack? i = none := q (.callBack i)
  cases ht : f.targets with
  | nil =>
    by_cases hleft : f.launched < f.total
    · simp [launch?, hf, ht, hleft] at hlaunch
    · have hdone : f.launched = f.total := by omega
      simp [report?, hf, ht, hdone] at hreport
  | cons target rest => exact ⟨target, rest, rfl, by simpa [callBack?, hf, ht] using hcall⟩

theorem Quiet.waits (q : m.Quiet) (hr : Reachable m) {f : Firing} (hf : f ∈ m.firings) :
    ∃ s ∈ m.subscriptions, ∃ v, WaitsFor m f s v := by
  obtain ⟨i, hi⟩ := List.mem_iff_getElem?.mp hf
  obtain ⟨target, rest, turn, waits⟩ := q.turn hr hi
  obtain ⟨-, v, decoded, hreg, s, hs, hid, watched, hfull⟩ := deliver?_waits waits
  have n := hr.numbered
  have bounded := hr.bounded s hs
  have attached : s.id ∈ m.registry := hid ▸ hreg
  have streaming := q.streaming n hs ((hr.listed.attached s hs).mp attached)
  have hslot : s.slots v.condition ≠ [] := by
    intro hnil
    simp [hnil, Limits.slotCapacity] at hfull
  obtain ⟨hand, output⟩ := q.jammed n hs streaming hslot
  obtain ⟨live, reader⟩ := live_of_not_stops (q.not_stops n hs streaming) hand
  exact ⟨s, hs, v, ⟨target, rest, turn, hid.symm⟩, attached, ⟨streaming, live, reader⟩, decoded,
    watched, Nat.le_antisymm (bounded.slot v.condition) hfull, hand,
    Nat.le_antisymm bounded.output output⟩

theorem Quiet.ended (q : m.Quiet) (u : m.Unheld) (hr : Reachable m) (hs : s ∈ m.subscriptions)
    (gone : s.scope.fired = true ∨ s.reader = false) : s.phase = .finished := by
  have fired : s.scope.fired = true := gone.elim id (hr.tidy s hs).reader
  cases attached : s.phase.isAttached with
  | false => exact q.finished u hr.numbered hs attached
  | true =>
    have stays := q.not_stops hr.numbered hs (q.streaming hr.numbered hs attached)
    simp [stops, fired] at stays

/-- After any run: where no move is left and no engine holds an unregister call, every subscription that
has fired or lost its reader is closed, detached and released, no subscribe call waits, and every thread
that is still there waits for a live subscription, for the condition it reports, whose slot is full, with
a full output and one more occurrence in hand. And no more moves than the work that is left can be made
from any state. -/
theorem no_stuck_subscription {as : List Action} (h : run? {} as = some m) :
    (m.Quiet → m.Unheld →
      (∀ s ∈ m.subscriptions, s.scope.fired = true ∨ s.reader = false →
        s.phase.stage = .closed ∧ s.id ∉ m.registry ∧ releases as s.id = 1) ∧
      m.requests = [] ∧
      ∀ f ∈ m.firings, ∃ s ∈ m.subscriptions, ∃ v, WaitsFor m f s v) ∧
    ∀ (mvs : List Move) (m' : Monitor), m.run? (mvs.map .move) = some m' →
      mvs.length + m'.work ≤ m.work := by
  have hr : Reachable m := ⟨as, h⟩
  refine ⟨fun q u => ⟨fun s hs gone => ?_, q.no_requests u hr.numbered, fun f hf => q.waits hr hf⟩,
    fun mvs m' hrun => hr.moves_le_work hrun⟩
  have finished := q.ended u hr hs gone
  refine ⟨by rw [finished]; rfl, fun hid => ?_, ?_⟩
  · have := (hr.listed.attached s hs).mp hid
    simp [finished, Phase.isAttached] at this
  · rw [(run_tallied h).known s hs, finished]
    rfl

def jam : List Action :=
  [.addEngine, .activate 0, .addToken none, .addToken none,
    .ask 0 { conditions := [.thermal], token := 0 }, .move (.enter 0), .move (.start 1),
    .ask 1 { conditions := [.power], token := 1 }, .move (.enter 0), .move (.start 2),
    .cancelToken 1, .move (.leave 2), .move (.detach 2), .move (.release 2), .move (.unregister 2),
    .move (.close 2), .move (.finish 2), .fire 7 0 (.report .thermal 0 90 0) 40 false] ++
  (List.replicate 32 [.move (.launch 0), .move (.callBack 0), .move (.take 1 .thermal),
    .move (.send 1)]).flatten ++
  [.move (.launch 0), .move (.callBack 0), .move (.take 1 .thermal), .move (.launch 0),
    .move (.callBack 0), .move (.launch 0)]

theorem jam_is_quiet : ∃ m s f, run? {} jam = some m ∧ m.Quiet ∧ m.Unheld ∧ s ∈ m.subscriptions ∧
    s.scope.fired = true ∧ s.phase.stage = .closed ∧ releases jam s.id = 1 ∧ f ∈ m.firings ∧
    ∃ t ∈ m.subscriptions, ∃ v, WaitsFor m f t v := by
  let m := (run? {} jam).get (by decide +kernel)
  have hm : run? {} jam = some m := by simp [m]
  have hquiet : m.Quiet := next?_eq_none_iff.mp (Option.isNone_iff_eq_none.mp (by decide +kernel))
  have hfree : m.Unheld := by
    intro s hs hcalling
    have hnobody : ∀ s ∈ m.subscriptions, s.phase.isCalling = false := by decide +kernel
    simp [hnobody s hs] at hcalling
  obtain ⟨ended, -, waits⟩ := (no_stuck_subscription hm).1 hquiet hfree
  obtain ⟨s, hs, hfired⟩ : ∃ s ∈ m.subscriptions, s.scope.fired = true := by decide +kernel
  obtain ⟨closed, -, released⟩ := ended s hs (.inl hfired)
  have hthread : 0 < m.firings.length := by decide +kernel
  have hf := List.getElem_mem hthread
  exact ⟨m, s, _, hm, hquiet, hfree, hs, hfired, closed, released, hf, waits _ hf⟩

end GpuTelemetry.Monitor
