import GpuTelemetry.Proofs.Attribution
import GpuTelemetry.Proofs.Journal

/-!
Unregister calls and what they leave of the registrations of a group. Several calls leave what one call
with all their conditions would; none of them touches another group.
-/

namespace GpuTelemetry

def union (masks : List UInt32) : UInt32 := masks.foldl (fun u mask => u ||| mask) 0

theorem union_append (xs ys : List UInt32) : union (xs ++ ys) = union xs ||| union ys := by
  have hfold : ys.foldl (fun u mask => u ||| mask) (union xs ||| 0) =
      union xs ||| ys.foldl (fun u mask => u ||| mask) 0 := List.foldl_assoc
  rw [UInt32.or_zero] at hfold
  rw [union, List.foldl_append]
  exact hfold

theorem union_singleton (mask : UInt32) : union [mask] = mask := UInt32.zero_or

theorem isIn_union {c : Condition} {masks : List UInt32} :
    c.isIn (union masks) = true ↔ ∃ mask ∈ masks, c.isIn mask = true := by
  simp only [Condition.isIn_eq, union]
  rw [Condition.union_bit (fun mask => mask)]
  simp

theorem union_congr {masks masks' : List UInt32}
    (named : ∀ mask ∈ masks, ∃ cs, mask = Condition.maskOf cs)
    (named' : ∀ mask ∈ masks', ∃ cs, mask = Condition.maskOf cs)
    (same : ∀ c : Condition, c.isIn (union masks) = true ↔ c.isIn (union masks') = true) :
    union masks = union masks' := by
  have bit {masks : List UInt32} (named : ∀ mask ∈ masks, ∃ cs, mask = Condition.maskOf cs)
      (i : Nat) : (union masks).toBitVec.getLsbD i = true ↔
        ∃ c : Condition, c.isIn (union masks) = true ∧ c.index = i := by
    rw [union, Condition.union_bit (fun mask => mask)]
    constructor
    · rintro (hzero | ⟨mask, hmask, hbit⟩)
      · simp at hzero
      · obtain ⟨cs, rfl⟩ := named mask hmask
        obtain ⟨c, hc, hi⟩ := (Condition.maskOf_bit cs i).mp hbit
        exact ⟨c, isIn_union.mpr ⟨_, hmask, Condition.isIn_maskOf.mpr hc⟩, hi⟩
    · rintro ⟨c, hc, rfl⟩
      obtain ⟨mask, hmask, hin⟩ := isIn_union.mp hc
      exact .inr ⟨mask, hmask, by rwa [Condition.isIn_eq] at hin⟩
  refine UInt32.toBitVec_inj.mp (BitVec.eq_of_getLsbD_eq fun i _ => ?_)
  rw [Bool.eq_iff_iff, bit named, bit named']
  simp only [same]

theorem Watch.release_named (w : Watch) (cs : List Condition) :
    ∃ ds, (w.release cs).2 = Condition.maskOf ds := by
  have hfold (a : Watch × UInt32) (ds : List Condition) (ha : a.2 = Condition.maskOf ds) :
      ∃ ds, (cs.foldl releaseOne a).2 = Condition.maskOf ds := by
    induction cs generalizing a ds with
    | nil => exact ⟨ds, ha⟩
    | cons c cs ih =>
      have hone : ∃ es, (releaseOne a c).2 = Condition.maskOf es := by
        unfold releaseOne
        split
        · exact ⟨ds, ha⟩
        · split
          · exact ⟨ds ++ [c], by simp [ha, Condition.maskOf, List.foldl_append]⟩
          · exact ⟨ds, ha⟩
      obtain ⟨es, hes⟩ := hone
      exact ih (releaseOne a c) es hes
  exact hfold (w, 0) [] rfl

namespace Registration

theorem cleared_cleared (g : Registration) (group : GroupId) (a b : UInt32) :
    (g.cleared group a).cleared group b = g.cleared group (a ||| b) := by
  have hnot : ~~~a &&& ~~~b = ~~~(a ||| b) := UInt32.toBitVec_inj.mp BitVec.not_or.symm
  by_cases hg : g.group = group
  · simp [cleared, hg, UInt32.and_assoc, hnot]
  · simp [cleared, hg]

theorem cleared_zero (g : Registration) (group : GroupId) : g.cleared group 0 = g := by
  unfold cleared
  split <;> simp

theorem cleared_other (g : Registration) {group : GroupId} (h : g.group ≠ group) (mask : UInt32) :
    g.cleared group mask = g := by
  simp [cleared, h]

theorem cleared_of_mask_zero {g : Registration} (h : g.mask = 0) (group : GroupId) (mask : UInt32) :
    (g.cleared group mask).mask = 0 := by
  unfold cleared
  split
  · simp [h]
  · exact h

end Registration

namespace Monitor

variable {m m' : Monitor} {a : Action} {key : GroupKey} {registrations : List Registration}

section remaining

theorem remaining_remaining (registrations : List Registration) (group : GroupId) (x y : UInt32) :
    remaining (remaining registrations group x) group y =
      remaining registrations group (x ||| y) := by
  induction registrations with
  | nil => rfl
  | cons g registrations ih =>
    simp only [remaining, List.map_cons, List.filter_cons] at ih ⊢
    by_cases hx : (g.cleared group x).mask = 0
    · have hxy : (g.cleared group (x ||| y)).mask = 0 := by
        rw [← Registration.cleared_cleared]
        exact Registration.cleared_of_mask_zero hx group y
      simpa [hx, hxy] using ih
    · simp only [bne_iff_ne, ne_eq, hx, not_false_eq_true, if_true, List.map_cons, List.filter_cons,
        Registration.cleared_cleared, ih]

theorem remaining_zero {group : GroupId} (h : ∀ g ∈ registrations, g.mask ≠ 0) :
    remaining registrations group 0 = registrations := by
  have hmap : registrations.map (·.cleared group 0) = registrations := by
    refine (List.map_congr_left fun g _ => ?_).trans (List.map_id registrations)
    exact g.cleared_zero group
  rw [remaining, hmap, List.filter_eq_self]
  exact fun g hg => by simpa using h g hg

theorem remaining_other {group : GroupId} (h : ∀ g ∈ registrations, g.mask ≠ 0)
    (other : ∀ g ∈ registrations, g.group ≠ group) (mask : UInt32) :
    remaining registrations group mask = registrations := by
  have hmap : registrations.map (·.cleared group mask) = registrations := by
    refine (List.map_congr_left fun g hg => ?_).trans (List.map_id registrations)
    exact g.cleared_other (other g hg) mask
  rw [remaining, hmap, List.filter_eq_self]
  exact fun g hg => by simpa using h g hg

end remaining

def groupRegistrations (m : Monitor) (key : GroupKey) : List Registration :=
  (m.registrations key.engine).filter (·.group == key.group)

theorem filter_remaining (registrations : List Registration) (group own : GroupId) (mask : UInt32) :
    (remaining registrations group mask).filter (·.group == own) =
      remaining (registrations.filter (·.group == own)) group mask := by
  simp only [remaining, List.filter_filter, List.filter_map, Function.comp_def,
    Registration.cleared_group]
  congr 1
  apply List.filter_congr
  intro g _
  exact Bool.and_comm _ _

def Substantial (m : Monitor) : Prop :=
  ∀ e < m.engineCount, ∀ g ∈ m.registrations e, g.mask ≠ 0

theorem Reachable.substantial (h : Reachable m) : m.Substantial := by
  apply h.induction (P := Substantial) fun e he => absurd he (Nat.not_lt_zero e)
  intro m a m' hr ih ha e he g hg
  obtain known | none := known_or_unused ha he
  · cases (hr.effect ha).registers known with
    | same registrations =>
      rw [registrations] at hg
      exact ih e known g hg
    | joined r engine registrations list =>
      rw [registrations] at hg
      obtain hg | hg := List.mem_append.mp hg
      · exact ih e known g hg
      · have hmem : r.subscription (m.lastId + 1) (m.scopeOf r.token) ∈ m'.subscriptions := by
          simp [list]
        rw [List.mem_singleton.mp hg]
        exact Condition.maskOf_ne_zero ((hr.act ha).wellFormed _ hmem).nonempty
    | cleared group mask registrations =>
      rw [registrations] at hg
      simpa using (List.mem_filter.mp hg).2
  · rw [none] at hg
    cases hg

theorem Substantial.group (h : m.Substantial) (known : key.engine < m.engineCount) :
    ∀ g ∈ m.groupRegistrations key, g.mask ≠ 0 ∧ g.group = key.group := by
  intro g hg
  obtain ⟨hmem, hgroup⟩ := List.mem_filter.mp hg
  exact ⟨h key.engine known g hmem, by simpa using hgroup⟩

end Monitor

def Event.unregister? (key : GroupKey) : Event → Option UInt32
  | .called e (.unregister group mask) _ =>
    if e = key.engine ∧ group = key.group then some mask else none
  | _ => none

namespace Monitor

variable {m m' : Monitor} {a : Action} {key : GroupKey}

def unregistered (m : Monitor) (key : GroupKey) : List UInt32 := m.said (Event.unregister? key)

theorem act?_unregistered (h : m.act? a = some m') (hne : ∀ id, a ≠ .move (.unregister id)) :
    m'.unregistered key = m.unregistered key := by
  refine (act?_frame h).said fun e he => ?_
  cases e with
  | called engine what answer =>
    cases what with
    | unregister =>
      cases a with
      | move mv =>
        cases mv with
        | unregister id => exact absurd rfl (hne id)
        | _ => cases he
      | _ => cases he
    | _ => rfl
  | _ => rfl

theorem unregister?_unregistered (key : GroupKey) {id : Nat} (h : m.unregister? id = some m') :
    ∃ s ∈ m.subscriptions, s.id = id ∧ ∃ mask, s.phase = .calling mask ∧
      m'.unregistered key = m.unregistered key ++ if s.key = key then [mask] else [] := by
  obtain ⟨s, hs, hid, mask, calls, -, rfl⟩ := unregister?_cases h
  refine ⟨s, hs, hid, mask, calls, ?_⟩
  have native (engine : Option Nat) (call : Native.Call) :
      Event.unregister? key (.native engine call) = none := rfl
  have hreap := said_reap native ((m.afterUnregister s.key mask).update id fun s =>
    { s with phase := .released }) s.key.engine
  have hcall := said_call native m s.key.engine (.unregister s.key.group mask)
    (fun answer => answer) (·.unregister s.key.group mask)
  refine hreap.trans (hcall.trans ?_)
  congr 1
  by_cases hk : s.key = key
  · simp [Event.unregister?, hk]
  · have hparts : ¬(s.key.engine = key.engine ∧ s.key.group = key.group) :=
      fun ⟨engine, group⟩ => hk (GroupKey.eq_of_parts engine group)
    simp [Event.unregister?, hk, hparts]

theorem Reachable.calls_named (h : Reachable m) : ∀ s ∈ m.subscriptions, ∀ mask,
    s.phase = .calling mask → ∃ cs, mask = Condition.maskOf cs := by
  refine h.induction (P := fun m => ∀ s ∈ m.subscriptions, ∀ mask, s.phase = .calling mask →
    ∃ cs, mask = Condition.maskOf cs) (by simp) ?_
  intro m a m' hr ih ha s' hs' mask calls
  obtain ⟨s, hs, acc, out, step, -, -⟩ | ⟨i, r, -, -, -, rfl⟩ := (hr.evolves ha).origin hs'
  · cases step with
    | called mask' phase free due busy =>
      cases calls
      rw [← due]
      exact Watch.release_named _ _
    | started | left | detached | released | returned | closed | finished => cases calls
    | _ => exact ih _ hs mask calls
  · cases calls

structure Withdraws (m : Monitor) (key : GroupKey) (masks : List UInt32) (m' : Monitor) : Prop where
  journal : m'.unregistered key = m.unregistered key ++ masks
  registrations : m'.groupRegistrations key =
    remaining (m.groupRegistrations key) key.group (union masks)
  kept : ∀ c, m.Kept key c ↔ m'.Kept key c ∨ c.isIn (union masks) = true
  gone : ∀ c, c.isIn (union masks) = true → ¬ m'.Kept key c
  once : ∀ c : Condition, masks.countP (c.isIn ·) ≤ 1
  named : ∀ mask ∈ masks, ∃ cs, mask = Condition.maskOf cs

namespace Withdraws

theorem none (hr : Reachable m) (known : key.engine < m.engineCount)
    (journal : m'.unregistered key = m.unregistered key)
    (registrations : m'.groupRegistrations key = m.groupRegistrations key)
    (kept : ∀ c, m'.Kept key c ↔ m.Kept key c) : Withdraws m key [] m' where
  journal := journal.trans (List.append_nil _).symm
  registrations := registrations.trans
    (remaining_zero fun g hg => (hr.substantial.group known g hg).1).symm
  kept := fun c => by simp [kept, union]
  gone := fun c hc => by simp [union] at hc
  once := fun _ => Nat.zero_le 1
  named := by simp

theorem trans {n : Monitor} {xs ys : List UInt32} (h : Withdraws m key xs n)
    (h' : Withdraws n key ys m') : Withdraws m key (xs ++ ys) m' where
  journal := by rw [h'.journal, h.journal, List.append_assoc]
  registrations := by
    rw [h'.registrations, h.registrations, remaining_remaining, union_append]
  kept := fun c => by
    rw [h.kept, h'.kept, union_append, Condition.isIn_or, Bool.or_eq_true]
    tauto
  gone := fun c hc kept => by
    rw [union_append, Condition.isIn_or, Bool.or_eq_true] at hc
    obtain hc | hc := hc
    · exact h.gone c hc ((h'.kept c).mpr (.inl kept))
    · exact h'.gone c hc kept
  once := fun c => by
    have hx := h.once c
    have hy := h'.once c
    rw [List.countP_append]
    by_cases hin : c.isIn (union ys) = true
    · -- then it was kept until after the calls in `xs`
      have hkept : n.Kept key c := (h'.kept c).mpr (.inr hin)
      have hnone : xs.countP (c.isIn ·) = 0 := by
        rw [List.countP_eq_zero]
        exact fun mask hmask hc => h.gone c (isIn_union.mpr ⟨mask, hmask, hc⟩) hkept
      omega
    · have hnone : ys.countP (c.isIn ·) = 0 := by
        rw [List.countP_eq_zero]
        exact fun mask hmask hc => hin (isIn_union.mpr ⟨mask, hmask, hc⟩)
      omega
  named := fun mask hmask => by
    obtain hmask | hmask := List.mem_append.mp hmask
    · exact h.named mask hmask
    · exact h'.named mask hmask

end Withdraws

theorem SameEngines.groupRegistrations (h : SameEngines m m') (known : key.engine < m.engineCount) :
    m'.groupRegistrations key = m.groupRegistrations key := by
  rw [Monitor.groupRegistrations, h.registrations known]
  rfl

theorem Shows.groupRegistrations {P : GroupKey → Option Policy} {R : Nat → List Registration}
    (h : m'.Shows m.engineCount P R) (known : key.engine < m.engineCount) :
    m'.groupRegistrations key = (R key.engine).filter (·.group == key.group) := by
  rw [Monitor.groupRegistrations, h.registrations _ known]

theorem Entered.withdraws {r : Request} (h : Entered m r m') (hr : Reachable m)
    (known : key.engine < m.engineCount) (other : r.key ≠ key)
    (journal : m'.unregistered key = m.unregistered key) : Withdraws m key [] m' := by
  have same (list : m'.subscriptions = m.subscriptions) (c : Condition) :
      m'.Kept key c ↔ m.Kept key c := by
    simp only [Kept, list]
  cases h with
  | policyRefused f refused groups engines list =>
    exact .none hr known journal (engines.groupRegistrations known) (same list)
  | registrationRefused f accepted groups engines list =>
    exact .none hr known journal (engines.groupRegistrations known) (same list)
  | joined groups engines list =>
    refine .none hr known journal ((engines.groupRegistrations known).trans ?_) fun c => ?_
    · by_cases he : key.engine = r.key.engine
      · have hgroup : r.key.group ≠ key.group :=
          fun hg => other (GroupKey.eq_of_parts he.symm hg)
        have hfilter : [r.registration (m.lastId + 1)].filter (·.group == key.group) = [] := by
          simp [Request.registration, hgroup]
        rw [he, assign_self, List.filter_append, hfilter, List.append_nil, ← he]
        rfl
      · rw [assign_of_ne _ _ he]
        rfl
    · simp [Kept, list, or_and_right, exists_or, Request.subscription, other]

theorem ReturnedTo.groupRegistrations_other {s : Subscription} {mask : UInt32}
    (h : ReturnedTo m s mask m') (hr : Reachable m) (known : key.engine < m.engineCount)
    (other : s.key ≠ key) : m'.groupRegistrations key = m.groupRegistrations key := by
  obtain ⟨-, engines⟩ | ⟨-, engines⟩ := h.engines
  · exact engines.groupRegistrations known
  · rw [engines.groupRegistrations known]
    by_cases he : key.engine = s.key.engine
    · have hgroup : key.group ≠ s.key.group :=
        fun hg => other (GroupKey.eq_of_parts he.symm hg.symm)
      rw [he, assign_self, filter_remaining, ← he]
      refine remaining_other (fun g hg => (hr.substantial.group known g hg).1) (fun g hg => ?_) mask
      rw [(hr.substantial.group known g hg).2]
      exact hgroup
    · rw [assign_of_ne _ _ he]
      rfl

theorem ReturnedTo.withdraws {s : Subscription} {mask : UInt32} (h : ReturnedTo m s mask m')
    (hr : Reachable m) (known : key.engine < m.engineCount)
    (carried : s.key = key → (m.engines s.key.engine).clears s.key.group mask = true)
    (journal : m'.unregistered key = m.unregistered key ++ if s.key = key then [mask] else []) :
    Withdraws m key (if s.key = key then [mask] else []) m' := by
  have kept (c : Condition) : m'.Kept key c ↔ m.Kept key c ∧ ¬(s.key = key ∧ c.isIn mask = true) :=
    h.kept_iff hr
  by_cases hk : s.key = key
  · rw [if_pos hk] at journal ⊢
    have engines : m'.Shows m.engineCount m.policy (assign m.registrations s.key.engine
        (remaining (m.registrations s.key.engine) s.key.group mask)) := by
      obtain ⟨hfails, -⟩ | ⟨-, shows⟩ := h.engines
      · rw [carried hk] at hfails
        cases hfails
      · exact shows
    have hkept (c : Condition) (hc : c.isIn mask = true) : m.Kept key c :=
      ⟨s, h.known, hk, .inr ⟨mask, h.calls, hc⟩⟩
    refine ⟨journal, ?_, fun c => ?_, fun c hc => ?_, fun c => ?_, ?_⟩
    · rw [engines.groupRegistrations known, hk, assign_self, filter_remaining, union_singleton]
      rfl
    · rw [kept, union_singleton]
      have := hkept c
      tauto
    · rw [union_singleton] at hc
      rw [kept]
      exact fun left => left.2 ⟨hk, hc⟩
    · exact List.countP_le_length
    · simpa using hr.calls_named s h.known mask h.calls
  · rw [if_neg hk] at journal ⊢
    refine .none hr known (journal.trans (List.append_nil _)) ?_ fun c => ?_
    · exact h.groupRegistrations_other hr known hk
    · rw [kept]
      simp [hk]

def undisturbed (key : GroupKey) (m : Monitor) : Action → Bool
  | .move (.enter i) => m.requests[i]?.all (·.key != key)
  | .move (.unregister id) =>
    (m.subscription? id).all (·.key != key) || m.carriesOut (.move (.unregister id))
  | _ => true

theorem act?_withdraws (hr : Reachable m) (known : key.engine < m.engineCount)
    (h : m.act? a = some m') (quiet : m.undisturbed key a = true) :
    ∃ masks, Withdraws m key masks m' := by
  have aside (enters : ∀ i, a ≠ .move (.enter i)) (releases : ∀ id, a ≠ .move (.release id))
      (unregisters : ∀ id, a ≠ .move (.unregister id)) : ∃ masks, Withdraws m key masks m' :=
    ⟨[], .none hr known (act?_unregistered h unregisters)
      (((hr.effect h).sameEngines enters unregisters).groupRegistrations known)
      fun _ => (hr.evolves h).kept_iff enters releases unregisters⟩
  cases a with
  | move mv =>
    cases mv with
    | enter i =>
      obtain ⟨r, waits, -, entered⟩ :=
        enter?_entered (fun r hm => (hr.proper.requests r hm).engine) h
      have other : r.key ≠ key := by simpa [undisturbed, waits] using quiet
      exact ⟨[], entered.withdraws hr known other (act?_unregistered h (by simp))⟩
    | release id =>
      obtain ⟨s, p, rfl, released⟩ := release?_releasedTo h
      exact ⟨[], .none hr known (act?_unregistered h (by simp))
        (released.engines.groupRegistrations known) fun _ => released.kept_iff hr (hr.act h)⟩
    | unregister id =>
      obtain ⟨s, mask, rfl, returned⟩ := unregister?_returnedTo h
      obtain ⟨t, ht, hid, mask', calls, journal⟩ := unregister?_unregistered key h
      obtain rfl := hr.numbered.eq_of_id ht returned.known hid
      obtain rfl : mask' = mask := Phase.calling.inj (calls.symm.trans returned.calls)
      refine ⟨_, returned.withdraws hr known (fun hk => ?_) journal⟩
      simpa [undisturbed, carriesOut, hr.numbered.subscription?_of_mem returned.known,
        returned.calls, hk] using quiet
    | _ => exact aside (by simp) (by simp) (by simp)
  | _ => exact aside (by simp) (by simp) (by simp)

theorem run?_withdraws {as : List Action} (hr : Reachable m) (known : key.engine < m.engineCount)
    (h : m.run? as = some m') (quiet : throughout (undisturbed key) m as = true) :
    ∃ masks, Withdraws m key masks m' := by
  have start : ∃ masks, Withdraws m key masks m := ⟨[], .none hr known rfl rfl fun _ => .rfl⟩
  refine run?_induction (P := fun as n => throughout (undisturbed key) m as = true →
    ∃ masks, Withdraws m key masks n) (fun _ => start) ?_ as m' h quiet
  intro bs n a n' hn ih ha hall
  rw [throughout_concat a hn, Bool.and_eq_true] at hall
  obtain ⟨xs, withdraws⟩ := ih hall.1
  have known' := Nat.lt_of_lt_of_le known (run?_engineCount hn)
  obtain ⟨ys, step⟩ := act?_withdraws (hr.run hn) known' ha hall.2
  exact ⟨xs ++ ys, withdraws.trans step⟩

end Monitor

end GpuTelemetry
