import GpuTelemetry.Proofs.Stages
import GpuTelemetry.Proofs.Withdrawals

namespace GpuTelemetry.Monitor

variable {m m' n n' : Monitor} {a : Action} {as as' : List Action} {key : GroupKey} {c : Condition}
  {ids : List Nat} {s : Subscription}

def staying (m : Monitor) (key : GroupKey) (ids : List Nat) : List Subscription :=
  m.subscriptions.filter fun s => s.key = key ∧ s.phase.holds = true ∧ s.id ∉ ids

def unregisters (m : Monitor) (key : GroupKey) (n : Monitor) : List UInt32 :=
  (n.unregistered key).drop (m.unregistered key).length

/-- In the course of `as`, the release sections of just those subscriptions of a group that have the
numbers `ids` are run, in some order. Nobody joins the group, its unregister calls are carried out, and
in the end its lock is free. -/
structure Departs (m : Monitor) (key : GroupKey) (ids : List Nat) (as : List Action) (n : Monitor) :
    Prop where
  run : m.run? as = some n
  quiet : throughout (undisturbed key) m as = true
  released : ∀ s ∈ m.subscriptions, s.key = key → s.phase.holds = true →
    (0 < releases as s.id ↔ s.id ∈ ids)
  free : n.isLocked key = false

section continues

def Continues (m : Monitor) (key : GroupKey) (n : Monitor) : Prop :=
  ∃ (next : Subscription → Subscription) (added : List Subscription),
    n.subscriptions = m.subscriptions.map next ++ added ∧
    (∀ s ∈ m.subscriptions,
      (next s).id = s.id ∧ (next s).key = s.key ∧ (next s).conditions = s.conditions) ∧
    ∀ t ∈ added, t.key ≠ key

theorem Continues.refl (m : Monitor) (key : GroupKey) : Continues m key m :=
  ⟨id, [], by simp, fun _ _ => ⟨rfl, rfl, rfl⟩, by simp⟩

theorem Adds.other (h : n.Adds a s) (quiet : n.undisturbed key a = true) : s.key ≠ key := by
  obtain ⟨i, r, rfl, waits, -, rfl⟩ := h
  have other : r.key ≠ key := by simpa [undisturbed, waits] using quiet
  exact other

theorem Continues.act (h : Continues m key n) (hr : Reachable n) (ha : n.act? a = some n')
    (quiet : n.undisturbed key a = true) : Continues m key n' := by
  obtain ⟨next, added, list, same, others⟩ := h
  obtain ⟨next', joined, list', steps, -, hjoined, -⟩ := hr.evolves ha
  refine ⟨next' ∘ next, added.map next' ++ joined, by simp [list', list], fun s hs => ?_,
    fun t ht => ?_⟩
  · have known : next s ∈ n.subscriptions := by
      rw [list]
      exact List.mem_append_left _ (List.mem_map_of_mem hs)
    obtain ⟨acc, out, step, -, -⟩ := steps (next s) known
    obtain ⟨hid, hkey, hconditions⟩ := same s hs
    exact ⟨step.id_eq.trans hid, step.key_eq.trans hkey, step.conditions_eq.trans hconditions⟩
  · obtain ht | ht := List.mem_append.mp ht
    · obtain ⟨u, hu, rfl⟩ := List.mem_map.mp ht
      obtain ⟨acc, out, step, -, -⟩ := steps u (by simp [list, hu])
      rw [step.key_eq]
      exact others u hu
    · obtain rfl | ⟨u, rfl, adds, -⟩ := hjoined
      · cases ht
      · rw [List.mem_singleton.mp ht]
        exact adds.other quiet

theorem Departs.continues (d : Departs m key ids as n) (hr : Reachable m) : Continues m key n := by
  refine run?_induction (P := fun as n => throughout (undisturbed key) m as = true →
    Continues m key n) (fun _ => .refl m key) ?_ as n d.run d.quiet
  intro bs n a n' hn ih ha hall
  rw [throughout_concat a hn, Bool.and_eq_true] at hall
  exact (ih hall.1).act (hr.run hn) ha hall.2

end continues

theorem releases_append (as bs : List Action) (id : Nat) :
    releases (as ++ bs) id = releases as id + releases bs id := List.countP_append

theorem Departs.holders_eq (d : Departs m key ids as n) (hr : Reachable m) (c : Condition) :
    n.holders key c = (m.staying key ids).countP (c ∈ ·.conditions) := by
  obtain ⟨bs, hb⟩ := hr
  obtain ⟨next, added, list, same, others⟩ := d.continues ⟨bs, hb⟩
  have before := run_tallied hb
  have after : Tallied (bs ++ as) n := run_tallied (by simp [run?_append, hb, d.run])
  have hadded : added.countP (·.holdsOn key c) = 0 := by
    rw [List.countP_eq_zero]
    intro t ht hon
    exact others t ht (Subscription.holdsOn_iff.mp hon).1
  rw [holders, list, List.countP_append, hadded, Nat.add_zero, List.countP_map, staying,
    List.countP_filter]
  apply List.countP_congr
  intro s hs
  obtain ⟨hid, hkey, hconditions⟩ := same s hs
  have known : next s ∈ n.subscriptions := by
    rw [list]
    exact List.mem_append_left _ (List.mem_map_of_mem hs)
  have hlast : (next s).phase.holds = true ↔
      s.phase.holds = true ∧ releases as s.id = 0 := by
    rw [after.holds_iff known, hid, before.holds_iff hs, releases_append, Nat.add_eq_zero_iff]
  have hstays : s.key = key → s.phase.holds = true → (releases as s.id = 0 ↔ s.id ∉ ids) := by
    intro hk holds
    have := d.released s hs hk holds
    rw [← this, Nat.pos_iff_ne_zero, not_not]
  simp only [Function.comp_apply, Subscription.holdsOn_iff, hkey, hconditions, hlast,
    Bool.and_eq_true, decide_eq_true_iff]
  tauto

theorem Departs.kept_iff (d : Departs m key ids as n) (hr : Reachable m) :
    n.Kept key c ↔ ∃ t ∈ m.staying key ids, c ∈ t.conditions := by
  have hheld : n.Kept key c ↔ 0 < n.holders key c := by
    rw [kept_iff_watched d.free, holders_pos]
    simp [watched, and_assoc]
  rw [hheld, d.holders_eq hr, List.countP_pos_iff]
  simp

theorem Departs.held_eq (d : Departs m key ids as n) (hr : Reachable m) (c : Condition) :
    (n.groups key).held c = if (m.staying key ids).countP (c ∈ ·.conditions) = 0 then none
      else some ((m.staying key ids).countP (c ∈ ·.conditions)) := by
  have counted := (hr.run d.run).counted
  rw [(counted.noZeros key).held_eq, counted.count, d.holders_eq hr]

theorem Departs.withdraws (d : Departs m key ids as n) (hr : Reachable m)
    (known : key.engine < m.engineCount) : Withdraws m key (m.unregisters key n) n := by
  obtain ⟨masks, withdraws⟩ := run?_withdraws hr known d.run d.quiet
  have hmasks : m.unregisters key n = masks := by
    rw [unregisters, withdraws.journal, List.drop_left]
  rwa [hmasks]

theorem Departs.isIn_iff (d : Departs m key ids as n) (hr : Reachable m)
    (known : key.engine < m.engineCount) (c : Condition) :
    c.isIn (union (m.unregisters key n)) = true ↔
      m.Kept key c ∧ ∀ t ∈ m.staying key ids, c ∉ t.conditions := by
  have withdraws := d.withdraws hr known
  have stays : (∀ t ∈ m.staying key ids, c ∉ t.conditions) ↔ ¬ n.Kept key c := by
    rw [d.kept_iff hr]
    push Not
    rfl
  rw [stays, withdraws.kept]
  have := withdraws.gone c
  tauto

theorem due_eq_zero (hr : Reachable m) (hs : s ∈ m.subscriptions)
    (shared : ∀ c ∈ s.conditions, 1 < m.holders s.key c) : m.due s = 0 := by
  obtain ⟨ds, hds⟩ := (m.groups s.key).release_named s.conditions
  have hnil : ds = [] := by
    by_contra hne
    obtain ⟨c, hc⟩ := List.exists_mem_of_ne_nil ds hne
    have hin : c.isIn (m.due s) = true := by
      rw [due, hds]
      exact Condition.isIn_maskOf.mpr hc
    have hmem := mem_of_isIn_due hr.counted hin
    obtain ⟨-, hle⟩ :=
      (Watch.isIn_release (hr.counted.noZeros s.key) s.conditions c).mp hin
    rw [hr.counted.count, List.count_eq_one_of_mem (hr.wellFormed s hs).nodup hmem] at hle
    have := shared c hmem
    omega
  rw [due, hds, hnil]
  rfl

theorem callsFor_of_shared (hr : Reachable m) (hs : s ∈ m.subscriptions) {before after : List Action}
    (run : m.run? (before ++ .move (.release s.id) :: after) = some m')
    (hn : m.run? before = some n) (shared : ∀ c ∈ s.conditions, 1 < n.holders s.key c) :
    m.callsFor s.id (before ++ .move (.release s.id) :: after) = [] := by
  rw [run?_append, hn, Option.bind_some, run?_cons, Option.bind_eq_some_iff] at run
  obtain ⟨o, release, -⟩ := run
  have hrn : Reachable n := hr.run hn
  obtain ⟨u, p, hid, hkey, hconditions, released⟩ := hr.released_later hs hn release
  have hu := released.known
  have hdue : n.due u = 0 := by
    apply due_eq_zero hrn hu
    rwa [hkey, hconditions]
  have hp : p = .released := by
    obtain ⟨-, hp⟩ | ⟨busy, -⟩ := released.outcome
    · exact hp
    · exact absurd hdue busy
  have early := hr.callsFor_of_early hs hn hu hid (by simp [released.waits, Phase.remaining])
  rw [← hid] at release early ⊢
  have own := no_call_of_idle hrn.numbered hu (by simp [released.waits, Phase.remaining]) release
  have late : o.callsFor u.id after = [] :=
    (hrn.act release).callsFor_of_late (s := { u with phase := p }) released.mem
      (by simp [hp, Phase.remaining])
  rw [callsFor_append u.id hn, early, List.nil_append, callsFor, release]
  exact List.append_eq_nil_iff.mpr ⟨own, late⟩

/-- The teardowns of any set of subscriptions of a group, run in any two orders with their unregister
calls carried out and nobody joining meanwhile, leave the same counts and the same registrations and have
unregistered the same conditions: those kept there before that nobody who stays watches, each of them in
just one call. A teardown whose conditions are all held by others makes no call. -/
theorem departures_in_any_order (hr : Reachable m) (known : key.engine < m.engineCount)
    (d : Departs m key ids as n) (d' : Departs m key ids as' n') :
    (∀ c, (n.groups key).held c = (n'.groups key).held c) ∧
    n.groupRegistrations key = n'.groupRegistrations key ∧
    union (m.unregisters key n) = union (m.unregisters key n') ∧
    (∀ c : Condition, c.isIn (union (m.unregisters key n)) = true ↔
      m.Kept key c ∧ ∀ t ∈ m.staying key ids, c ∉ t.conditions) ∧
    (∀ c : Condition, c.isIn (union (m.unregisters key n)) = true →
      (m.unregisters key n).countP (c.isIn ·) = 1) ∧
    ∀ s ∈ m.subscriptions, ∀ before after o, as = before ++ .move (.release s.id) :: after →
      m.run? before = some o → (∀ c ∈ s.conditions, 1 < o.holders s.key c) →
        m.callsFor s.id as = [] := by
  have w := d.withdraws hr known
  have w' := d'.withdraws hr known
  have same : union (m.unregisters key n) = union (m.unregisters key n') :=
    union_congr w.named w'.named fun c => (d.isIn_iff hr known c).trans (d'.isIn_iff hr known c).symm
  refine ⟨fun c => ?_, ?_, same, d.isIn_iff hr known, fun c hc => ?_,
    fun s hs before after o has ho shared => ?_⟩
  · rw [d.held_eq hr, d'.held_eq hr]
  · rw [w.registrations, w'.registrations, same]
  · obtain ⟨mask, hmask, hin⟩ := isIn_union.mp hc
    have hpos : 0 < (m.unregisters key n).countP (c.isIn ·) :=
      List.countP_pos_iff.mpr ⟨mask, hmask, hin⟩
    have := w.once c
    omega
  · subst has
    exact callsFor_of_shared hr hs d.run ho shared

def gathering : List Action :=
  [.addEngine, .activate 0, .addToken none, .addToken none,
    .ask 0 { conditions := [.thermal, .xid], token := 0 }, .move (.enter 0),
    .ask 1 { conditions := [.thermal, .power], token := 0 }, .move (.enter 0),
    .ask 2 { conditions := [.power], token := 1 }, .move (.enter 0), .move (.start 1), .move (.start 2)]

def farewell : List Action :=
  [.cancelToken 0, .move (.leave 1), .move (.detach 1), .move (.leave 2), .move (.detach 2)]

def secondFirst : List Action :=
  farewell ++ .move (.release 2) :: [.move (.release 1), .move (.unregister 1)]

def firstFirst : List Action :=
  farewell ++ [.move (.release 1), .move (.unregister 1), .move (.release 2), .move (.unregister 2)]

theorem gathering_departs : ∃ m n n', run? {} gathering = some m ∧ m.run? secondFirst = some n ∧
    m.run? firstFirst = some n' ∧
    m.unregisters ⟨0, allGpus⟩ n = [Condition.maskOf [.thermal, .xid]] ∧
    m.unregisters ⟨0, allGpus⟩ n' = [Condition.maskOf [.xid], Condition.maskOf [.thermal]] ∧
    (∀ c, (n.groups ⟨0, allGpus⟩).held c = (n'.groups ⟨0, allGpus⟩).held c) ∧
    n.groupRegistrations ⟨0, allGpus⟩ = n'.groupRegistrations ⟨0, allGpus⟩ ∧
    union (m.unregisters ⟨0, allGpus⟩ n) = union (m.unregisters ⟨0, allGpus⟩ n') ∧
    m.callsFor 2 secondFirst = [] := by
  let m := (run? {} gathering).get (by decide +kernel)
  let n := (m.run? secondFirst).get (by decide +kernel)
  let n' := (m.run? firstFirst).get (by decide +kernel)
  let o := (m.run? farewell).get (by decide +kernel)
  have hm : run? {} gathering = some m := by simp [m]
  have hn : m.run? secondFirst = some n := by simp [n]
  have hn' : m.run? firstFirst = some n' := by simp [n']
  have ho : m.run? farewell = some o := by simp [o]
  have d : Departs m ⟨0, allGpus⟩ [1, 2] secondFirst n :=
    ⟨hn, by decide +kernel, by decide +kernel, by decide +kernel⟩
  have d' : Departs m ⟨0, allGpus⟩ [1, 2] firstFirst n' :=
    ⟨hn', by decide +kernel, by decide +kernel, by decide +kernel⟩
  obtain ⟨s, hs, hid, shared⟩ : ∃ s ∈ m.subscriptions, s.id = 2 ∧
      ∀ c ∈ s.conditions, 1 < o.holders s.key c := by decide +kernel
  obtain ⟨counts, registrations, calls, -, -, silent⟩ :=
    departures_in_any_order ⟨gathering, hm⟩ (by decide +kernel) d d'
  have hnone := silent s hs farewell [.move (.release 1), .move (.unregister 1)] o (by rw [hid]; rfl)
    ho shared
  rw [hid] at hnone
  exact ⟨m, n, n', hm, hn, hn', by decide +kernel, by decide +kernel, counts, registrations, calls,
    hnone⟩

end GpuTelemetry.Monitor
