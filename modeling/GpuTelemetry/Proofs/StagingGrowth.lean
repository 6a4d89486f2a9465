import GpuTelemetry.Proofs.Staging

namespace GpuTelemetry.History

namespace Staging

def target (capacity needed limit : Nat) : Nat :=
  min (max (max (Limits.saturate (capacity * 2)) Limits.stagingGrowth) needed) (max limit needed)

def reserveExact (capacity length more : Nat) : Nat :=
  if length + more ≤ capacity then capacity else length + more

theorem le_target (capacity needed limit : Nat) : needed ≤ target capacity needed limit := by
  unfold target
  omega

theorem grown_of_fits {capacity needed : Nat} (limit : Nat) (h : needed ≤ capacity) :
    grown capacity needed limit = capacity := if_pos h

theorem grown_of_full {capacity needed : Nat} (limit : Nat) (h : capacity < needed) :
    grown capacity needed limit = target capacity needed limit := if_neg (Nat.not_le.mpr h)

theorem needed_le_grown (capacity needed limit : Nat) : needed ≤ grown capacity needed limit := by
  rcases Nat.lt_or_ge capacity needed with h | h
  · rw [grown_of_full limit h]
    exact le_target capacity needed limit
  · rwa [grown_of_fits limit h]

theorem grown_past_limit {capacity needed limit : Nat} (h : limit < needed) :
    grown capacity needed limit = max capacity needed := by
  rcases Nat.lt_or_ge capacity needed with hfull | hfits
  · rw [grown_of_full limit hfull, target]
    omega
  · rw [grown_of_fits limit hfits]
    omega

theorem reserveExact_target {capacity length needed : Nat} (limit : Nat) (hlength : length ≤ capacity)
    (h : capacity < needed) :
    reserveExact capacity length (target capacity needed limit - length) =
      grown capacity needed limit := by
  have htarget := le_target capacity needed limit
  rw [grown_of_full limit h, reserveExact, if_neg (by omega)]
  omega

theorem target_doubles (capacity : Nat) {needed limit : Nat} (word : limit ≤ Limits.maxWord)
    (fits : needed ≤ limit) :
    target capacity needed limit ≤ limit ∧
      (2 * capacity ≤ target capacity needed limit ∨ target capacity needed limit = limit) := by
  unfold target Limits.saturate
  omega

theorem receiveAll_concat (s : Staging) (ds : List Delivery) (d : Delivery) :
    s.receiveAll (ds ++ [d]) = ((s.receiveAll ds).receive d).2 := by simp [receiveAll]

def growths (s : Staging) : List Delivery → Nat
  | [] => 0
  | d :: ds =>
    (if s.capacity < (s.receive d).2.capacity then 1 else 0) + growths (s.receive d).2 ds

theorem growths_concat (s : Staging) (ds : List Delivery) (d : Delivery) :
    growths s (ds ++ [d]) = growths s ds +
      if (s.receiveAll ds).capacity < ((s.receiveAll ds).receive d).2.capacity then 1 else 0 := by
  induction ds generalizing s with
  | nil =>
    rw [List.nil_append, growths, growths, growths, Nat.add_zero, Nat.zero_add]
    rfl
  | cons b ds ih =>
    rw [List.cons_append, growths, ih, growths, Nat.add_assoc]
    rfl

end Staging

open Staging

/-- A callback makes the capacity grow: the values that are there and those that it brings do not fit,
and the buffer is asked for just the places that it lacks of its target. -/
structure Grows (limit : Nat) (s : Staging) (d : Delivery) (s' : Staging) : Prop where
  full : s.capacity < s.values.size + d.batch.length
  fits : s.values.size + d.batch.length ≤ limit
  room : s.values.size ≤ target s.capacity (s.values.size + d.batch.length) limit
  asked : s'.capacity = reserveExact s.capacity s.values.size
    (target s.capacity (s.values.size + d.batch.length) limit - s.values.size)
  doubles : 2 * s.capacity ≤ s'.capacity ∨ s'.capacity = limit

structure Roomy (limit : Nat) (s : Staging) : Prop where
  limit_eq : s.limit = limit
  holds : s.values.size ≤ s.capacity
  within : s.capacity ≤ limit

variable {limit : Nat} {s : Staging} {d : Delivery}

theorem roomy_start (limit : Nat) : Roomy limit (.start limit) :=
  ⟨rfl, Nat.zero_le _, Nat.min_le_right _ _⟩

theorem saturate_exact {n : Nat} (word : limit ≤ Limits.maxWord)
    (sized : limit = Limits.maxWord → n ≤ Limits.maxWord) (h : Limits.saturate n ≤ limit) :
    Limits.saturate n = n := by
  unfold Limits.saturate at h ⊢
  omega

structure Absorbed (limit : Nat) (s : Staging) (d : Delivery) (s' : Staging) : Prop where
  roomy : Roomy limit s'
  kept : s.capacity ≤ s'.capacity
  grows : s.capacity < s'.capacity → Grows limit s d s'

theorem Roomy.unchanged (h : Roomy limit s) {s' : Staging} (hlimit : s'.limit = s.limit)
    (hvalues : s'.values = s.values) (hcapacity : s'.capacity = s.capacity) : Absorbed limit s d s' :=
  ⟨⟨hlimit.trans h.limit_eq, by rw [hvalues, hcapacity]; exact h.holds, hcapacity ▸ h.within⟩,
    by omega, by omega⟩

theorem Roomy.absorbed (h : Roomy limit s) (word : limit ≤ Limits.maxWord)
    (fits : s.values.size + d.batch.length ≤ limit) (calls : Nat) :
    Absorbed limit s d
      { s with
        limit := limit
        values := s.values ++ (d.batch.map (Sample.ofRecord d.group d.id)).toArray
        capacity := grown s.capacity (s.values.size + d.batch.length) limit
        calls := calls } := by
  have hsize : (s.values ++ (d.batch.map (Sample.ofRecord d.group d.id)).toArray).size =
      s.values.size + d.batch.length := by simp
  have hgrown := needed_le_grown s.capacity (s.values.size + d.batch.length) limit
  have hholds := h.holds
  rcases Nat.lt_or_ge s.capacity (s.values.size + d.batch.length) with hfull | hroom
  · obtain ⟨hwithin, hdoubles⟩ := target_doubles s.capacity word fits
    have htarget := grown_of_full limit hfull
    rw [← htarget] at hwithin hdoubles
    exact ⟨⟨rfl, by simpa [hsize] using hgrown, hwithin⟩, by simp only; omega,
      fun _ => ⟨hfull, fits, by omega, (reserveExact_target limit hholds hfull).symm, hdoubles⟩⟩
  · have hsame := grown_of_fits limit hroom
    exact ⟨⟨rfl, by simpa [hsize] using hgrown, Nat.le_trans (Nat.le_of_eq hsame) h.within⟩,
      Nat.le_of_eq hsame.symm, fun hmore => by simp only [hsame] at hmore; omega⟩

theorem Roomy.receive (h : Roomy limit s) (word : limit ≤ Limits.maxWord)
    (sized : limit = Limits.maxWord → (s.receive d).2.values.size ≤ Limits.maxWord) :
    Absorbed limit s d (s.receive d).2 := by
  revert sized
  unfold Staging.receive
  split
  · unfold Staging.add
    simp only
    split
    · exact fun _ => h.unchanged rfl rfl rfl
    · split
      · exact fun _ => h.unchanged rfl rfl rfl
      · rename_i hfits
        intro sized
        rw [h.limit_eq, Nat.not_lt] at hfits
        have hneeded := saturate_exact word (fun hmax => by simpa using sized hmax) hfits
        rw [hneeded] at hfits
        simp only [hneeded, h.limit_eq]
        exact h.absorbed word hfits _
  · exact fun _ => h.unchanged rfl rfl rfl

structure Doubled (limit k : Nat) (s : Staging) : Prop where
  reached : s.capacity = limit ∨ Limits.stagingStart * 2 ^ k ≤ s.capacity
  before : k ≠ 0 → Limits.stagingStart * 2 ^ (k - 1) < limit

theorem doubled_start (limit : Nat) : Doubled limit 0 (.start limit) := by
  refine ⟨?_, fun h => absurd rfl h⟩
  simp only [Staging.start, Nat.pow_zero, Nat.mul_one]
  omega

theorem Doubled.absorbed {k : Nat} {s' : Staging} (h : Doubled limit k s) (a : Absorbed limit s d s') :
    Doubled limit (k + if s.capacity < s'.capacity then 1 else 0) s' := by
  split
  · rename_i hmore
    -- a growth begins below the limit, so all growths before it have doubled the capacity
    have hbelow : s.capacity < limit := Nat.lt_of_lt_of_le hmore a.roomy.within
    have hpower : Limits.stagingStart * 2 ^ k ≤ s.capacity :=
      h.reached.resolve_left (Nat.ne_of_lt hbelow)
    refine ⟨?_, fun _ => Nat.lt_of_le_of_lt hpower hbelow⟩
    rcases (a.grows hmore).doubles with htwice | hlimit
    · right
      rw [Nat.pow_succ, ← Nat.mul_assoc]
      omega
    · exact .inl hlimit
  · rename_i hsame
    have heq : s'.capacity = s.capacity := Nat.le_antisymm (Nat.not_lt.mp hsame) a.kept
    rw [Nat.add_zero]
    exact ⟨heq ▸ h.reached, h.before⟩

theorem Doubled.le_log2 {k : Nat} (h : Doubled limit k s) :
    k ≤ Nat.log2 (limit / Limits.stagingStart) + 1 := by
  cases k with
  | zero => exact Nat.zero_le _
  | succ k =>
    have hbefore : Limits.stagingStart * 2 ^ k < limit := h.before (Nat.succ_ne_zero k)
    have hpower : 2 ^ k ≤ limit / Limits.stagingStart := by
      rw [Nat.le_div_iff_mul_le (by decide), Nat.mul_comm]
      exact Nat.le_of_lt hbefore
    have hpos : limit / Limits.stagingStart ≠ 0 :=
      Nat.ne_of_gt (Nat.lt_of_lt_of_le (Nat.two_pow_pos k) hpower)
    exact Nat.succ_le_succ ((Nat.le_log2 hpos).mpr hpower)

structure Grown (limit : Nat) (ds : List Delivery) (s : Staging) : Prop where
  roomy : Roomy limit s
  doubled : Doubled limit (growths (.start limit) ds) s

/-- The staged values are always as many as a word can count. -/
def WordSized (limit : Nat) (ds : List Delivery) : Prop :=
  ∀ front, front <+: ds → ((Staging.start limit).receiveAll front).values.size ≤ Limits.maxWord

theorem WordSized.of_begins {ds front : List Delivery} (h : WordSized limit ds) (hfront : front <+: ds) :
    WordSized limit front := fun first hfirst => h first (hfirst.trans hfront)

theorem Roomy.next {ds : List Delivery} (h : Roomy limit ((Staging.start limit).receiveAll ds))
    (word : limit ≤ Limits.maxWord) (sized : limit = Limits.maxWord → WordSized limit (ds ++ [d])) :
    Absorbed limit ((Staging.start limit).receiveAll ds) d
      (((Staging.start limit).receiveAll ds).receive d).2 := by
  refine h.receive word fun hmax => ?_
  rw [← receiveAll_concat]
  exact sized hmax _ (List.prefix_refl _)

theorem grown_of_run (word : limit ≤ Limits.maxWord) (ds : List Delivery)
    (sized : limit = Limits.maxWord → WordSized limit ds) :
    Grown limit ds ((Staging.start limit).receiveAll ds) := by
  -- callback by callback from the first to the last, so that the step is the one after a run
  induction ds using List.reverseRecOn with
  | nil => exact ⟨roomy_start limit, doubled_start limit⟩
  | append_singleton ds d ih =>
    have hgrown := ih fun hmax => (sized hmax).of_begins ⟨[d], rfl⟩
    have hnext := hgrown.roomy.next word sized
    rw [receiveAll_concat]
    refine ⟨hnext.roomy, ?_⟩
    rw [growths_concat]
    exact hgrown.doubled.absorbed hnext

/-- Staging under any limit, whatever the callbacks bring. The length of a buffer is a word, which says
something of the values only where the limit is the largest word. Past the limit, where a buffer is never
asked to grow, it still would for the values that are needed. -/
theorem staging_growth_bounded (word : limit ≤ Limits.maxWord) (ds : List Delivery)
    (sized : limit = Limits.maxWord → WordSized limit ds) :
    (∀ front, front <+: ds →
      ((Staging.start limit).receiveAll front).values.size ≤
          ((Staging.start limit).receiveAll front).capacity ∧
        ((Staging.start limit).receiveAll front).capacity ≤ limit) ∧
    (∀ front d s s', front ++ [d] <+: ds → (Staging.start limit).receiveAll front = s →
      (s.receive d).2 = s' →
      s.capacity ≤ s'.capacity ∧ (s.capacity < s'.capacity → Grows limit s d s')) ∧
    growths (.start limit) ds ≤ Nat.log2 (limit / 256) + 1 ∧
    ∀ capacity length needed cap, length ≤ capacity →
      needed ≤ grown capacity needed cap ∧
      (capacity < needed → length ≤ target capacity needed cap ∧
        grown capacity needed cap =
          reserveExact capacity length (target capacity needed cap - length)) ∧
      (cap < needed → grown capacity needed cap = max capacity needed) := by
  have hrun (front : List Delivery) (hfront : front <+: ds) :
      limit = Limits.maxWord → WordSized limit front :=
    fun hmax => (sized hmax).of_begins hfront
  refine ⟨fun front hfront => ?_, ?_, (grown_of_run word ds sized).doubled.le_log2,
    fun capacity length needed cap hlength => ⟨needed_le_grown .., fun hfull => ⟨?_, ?_⟩, ?_⟩⟩
  · have hroomy := (grown_of_run word front (hrun front hfront)).roomy
    exact ⟨hroomy.holds, hroomy.within⟩
  · rintro front d s s' hbegins rfl rfl
    have hfront : front <+: ds := List.IsPrefix.trans ⟨[d], rfl⟩ hbegins
    have hnext := (grown_of_run word front (hrun front hfront)).roomy.next word (hrun _ hbegins)
    exact ⟨hnext.kept, hnext.grows⟩
  · have htarget := le_target capacity needed cap
    omega
  · exact (reserveExact_target cap hlength hfull).symm
  · exact grown_past_limit

def blanks (n : Nat) : Delivery := ⟨true, 1, 0, some (List.replicate n .blank), n⟩

theorem wordSized_blanks : WordSized Limits.maxWord [blanks 300] := by
  intro front hfront
  rcases List.prefix_cons_iff.mp hfront with rfl | ⟨rest, rfl, hrest⟩
  · exact Nat.zero_le _
  · obtain rfl := List.prefix_nil.mp hrest
    decide +kernel

theorem one_growth_to_limit :
    (400 ≤ Limits.maxWord ∧ (400 = Limits.maxWord → WordSized 400 [blanks 300])) ∧
    Grows 400 (.start 400) (blanks 300) ((Staging.start 400).receive (blanks 300)).2 ∧
    ((Staging.start 400).receive (blanks 300)).2.capacity = 400 ∧
    growths (.start 400) [blanks 300] = 1 ∧
    growths (.start 400) [blanks 300] ≤ Nat.log2 (400 / 256) + 1 ∧
    WordSized Limits.maxWord [blanks 300] ∧
    growths (.start Limits.maxWord) [blanks 300] ≤ Nat.log2 (Limits.maxWord / 256) + 1 := by
  have word : 400 ≤ Limits.maxWord := by decide
  have sized : 400 = Limits.maxWord → WordSized 400 [blanks 300] := fun h => absurd h (by decide)
  have hcapacity : ((Staging.start 400).receive (blanks 300)).2.capacity = 400 := by decide +kernel
  have hmore : (Staging.start 400).capacity < ((Staging.start 400).receive (blanks 300)).2.capacity := by
    rw [hcapacity]
    decide
  obtain ⟨-, hsteps, hgrowths, -⟩ := staging_growth_bounded word [blanks 300] sized
  obtain ⟨-, -, hlargest, -⟩ :=
    staging_growth_bounded (Nat.le_refl _) [blanks 300] fun _ => wordSized_blanks
  have hstep := hsteps [] (blanks 300) (.start 400) _ (List.prefix_refl [blanks 300]) rfl rfl
  refine ⟨⟨word, sized⟩, hstep.2 hmore, hcapacity, ?_, hgrowths, wordSized_blanks, hlargest⟩
  rw [growths, if_pos hmore, growths]

end GpuTelemetry.History
