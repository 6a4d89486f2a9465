import GpuTelemetry.Monitor.Caller
import GpuTelemetry.Monitor.Query
import GpuTelemetry.Proofs.EngineCalls
import Mathlib.Algebra.GroupWithZero.Nat
import Mathlib.Data.List.Induction

namespace GpuTelemetry

open scoped List

theorem Limits.lt_saturate {limit n : Nat} (h : limit ≤ historyValues) :
    limit < saturate n ↔ limit < n := by
  have hword : historyValues < maxWord := by decide
  unfold saturate
  omega

namespace History

namespace Delivery

def length (d : Delivery) : Nat := if d.records.isSome then d.count.toNat else 0

def Backed (d : Delivery) : Prop := ∀ rs, d.records = some rs → d.count ≤ rs.length

theorem Backed.length_samples {d : Delivery} (h : d.Backed) : d.samples.length = d.length := by
  unfold samples batch length
  cases hr : d.records with
  | none => rfl
  | some rs =>
    have hcount := h rs hr
    simp only [List.length_map, List.length_take, Option.isSome_some, if_true]
    omega

end Delivery

def gathered (ds : List Delivery) : List Sample := (ds.filter (·.addressed)).flatMap Delivery.samples

def total (ds : List Delivery) : Nat := ((ds.filter (·.addressed)).map Delivery.length).sum

theorem gathered_concat (ds : List Delivery) (d : Delivery) :
    gathered (ds ++ [d]) = gathered ds ++ if d.addressed then d.samples else [] := by
  cases h : d.addressed <;> simp [gathered, h]

theorem length_gathered {ds : List Delivery} (h : ∀ d ∈ ds, d.Backed) :
    (gathered ds).length = total ds := by
  rw [gathered, List.length_flatMap, total]
  congr 1
  apply List.map_congr_left
  intro d hd
  exact (h d (List.mem_filter.mp hd).1).length_samples

structure Staged (limit : Nat) (ds : List Delivery) (s : Staging) : Prop where
  limit_eq : s.limit = limit
  bounded : s.values.size ≤ limit
  overflowed : s.overflowed = true ↔ limit < (gathered ds).length
  values : s.overflowed = false → s.values.toList = gathered ds

theorem staged_start (limit : Nat) : Staged limit [] (.start limit) :=
  ⟨rfl, Nat.zero_le _, by simp [Staging.start, gathered], fun _ => rfl⟩

variable {limit : Nat} {ds : List Delivery} {s : Staging} {d : Delivery}

theorem Staged.ignored (h : Staged limit ds s) (hd : d.addressed = false) :
    Staged limit (ds ++ [d]) s := by
  have hsame : gathered (ds ++ [d]) = gathered ds := by simp [gathered_concat, hd]
  exact ⟨h.limit_eq, h.bounded, hsame ▸ h.overflowed, hsame ▸ h.values⟩

theorem Staged.skipped (h : Staged limit ds s) (ho : s.overflowed = true) :
    Staged limit (ds ++ [d]) { s with calls := s.calls + 1 } := by
  -- a limit that has been passed stays so: the sum of the lengths only grows
  have hover := h.overflowed.mp ho
  refine ⟨h.limit_eq, h.bounded, ?_, fun hf => by simp [ho] at hf⟩
  simp only [ho, gathered_concat, List.length_append, true_iff]
  omega

theorem Staged.add (h : Staged limit ds s) (hl : limit ≤ Limits.historyValues)
    (hd : d.addressed = true) :
    Staged limit (ds ++ [d]) (s.add d.group d.id d.batch) := by
  unfold Staging.add
  simp only
  split
  · rename_i ho
    exact h.skipped ho
  · rename_i ho
    have hvalues := h.values (by simpa using ho)
    have hbatch : d.samples.length = d.batch.length := by simp [Delivery.samples]
    have hsize : (gathered (ds ++ [d])).length = s.values.size + d.batch.length := by
      rw [gathered_concat, if_pos hd, List.length_append, ← hvalues, hbatch, Array.length_toList]
    split
    · rename_i hover
      rw [h.limit_eq, Limits.lt_saturate hl, ← hsize] at hover
      exact ⟨h.limit_eq, h.bounded, by simpa using hover, fun hf => by simp at hf⟩
    · rename_i hfits
      rw [h.limit_eq, Limits.lt_saturate hl, ← hsize] at hfits
      refine ⟨h.limit_eq, ?_, by simpa [ho] using hfits, fun _ => ?_⟩
      · simp only [Array.size_append, List.size_toArray, List.length_map]
        omega
      · simp [hvalues, gathered_concat, hd, Delivery.samples]

theorem Staged.receive (h : Staged limit ds s) (hl : limit ≤ Limits.historyValues) (d : Delivery) :
    Staged limit (ds ++ [d]) (s.receive d).2 := by
  unfold Staging.receive
  split
  · rename_i hd
    exact h.add hl hd
  · rename_i hd
    exact h.ignored (by simpa using hd)

theorem staged_receiveAll (hl : limit ≤ Limits.historyValues) (ds : List Delivery) :
    Staged limit ds ((Staging.start limit).receiveAll ds) := by
  induction ds using List.reverseRecOn with
  | nil => exact staged_start limit
  | append_singleton ds d ih =>
    rw [Staging.receiveAll, List.foldl_append]
    exact ih.receive hl d

inductive Ended (q : Query) (reply : Reply) : Except Failure Result → Prop
  | exceeded (past : q.limit < (gathered reply.deliveries).length) :
      Ended q reply (.error (.limitExceeded q.limit))
  | empty (fits : (gathered reply.deliveries).length ≤ q.limit) (status : reply.status = .noData) :
      Ended q reply (.error .noData)
  | refused (fits : (gathered reply.deliveries).length ≤ q.limit) (bad : reply.status ≠ .ok)
      (status : reply.status ≠ .noData) :
      Ended q reply (.error (.engine "dcgmGetValuesSince_v2" reply.status))
  | complete (fits : (gathered reply.deliveries).length ≤ q.limit) (status : reply.status = .ok) :
      Ended q reply (.ok ⟨(gathered reply.deliveries).toArray, reply.cursor.getD q.since⟩)

theorem result_ended {q : Query} (hl : q.limit ≤ Limits.historyValues) (reply : Reply) :
    Ended q reply (q.result reply) := by
  have staged := staged_receiveAll hl reply.deliveries
  unfold Query.result
  simp only
  split
  · rename_i ho
    exact .exceeded (staged.overflowed.mp ho)
  · rename_i ho
    have fits : (gathered reply.deliveries).length ≤ q.limit := by
      rw [← Nat.not_lt, ← staged.overflowed]
      exact ho
    have hvalues : ((Staging.start q.limit).receiveAll reply.deliveries).values =
        (gathered reply.deliveries).toArray := by
      rw [← staged.values (by simpa using ho)]
    obtain ⟨hok, hcheck⟩ | ⟨hbad, hcheck⟩ := reply.status.check_cases "dcgmGetValuesSince_v2"
    · rw [hcheck, hvalues]
      exact .complete fits (by simpa [Status.isOk] using hok)
    · have bad : reply.status ≠ .ok := by simpa [Status.isOk] using hbad
      rw [hcheck]
      by_cases hnone : reply.status = .noData
      · simpa [Failure.ofStatus, hnone] using Ended.empty fits hnone
      · simpa [Failure.ofStatus, hnone] using Ended.refused fits bad hnone

theorem Ended.exactly {q : Query} {reply : Reply} {outcome : Except Failure Result}
    (h : Ended q reply outcome) :
    (outcome = .error (.limitExceeded q.limit) ↔ q.limit < (gathered reply.deliveries).length) ∧
    (outcome = .error .noData ↔
      (gathered reply.deliveries).length ≤ q.limit ∧ reply.status = .noData) ∧
    (outcome = .error (.engine "dcgmGetValuesSince_v2" reply.status) ↔
      (gathered reply.deliveries).length ≤ q.limit ∧ reply.status ≠ .noData ∧ reply.status ≠ .ok) ∧
    ∀ r, outcome = .ok r ↔ (gathered reply.deliveries).length ≤ q.limit ∧ reply.status = .ok ∧
      r = ⟨(gathered reply.deliveries).toArray, reply.cursor.getD q.since⟩ := by
  cases h with
  | exceeded past =>
    have hnot := Nat.not_le.mpr past
    simp [past, hnot]
  | empty fits status =>
    have hnot := Nat.not_lt.mpr fits
    simp [fits, hnot, status]
  | refused fits bad status =>
    have hnot := Nat.not_lt.mpr fits
    simp [fits, hnot, bad, status]
  | complete fits status =>
    have hnot := Nat.not_lt.mpr fits
    simp [fits, hnot, status, eq_comm]

end History

namespace Monitor

open History

/-- A request whose limit has been lowered to `n`, whatever the engine calls back with, writes as the
next cursor and answers: it fails for its limit just when the callbacks bring more records than that,
or else for the engine's status, and hands over all of their samples otherwise; never more are staged
than the limit allows. -/
theorem collect_all_or_nothing (m : Monitor) {e : Nat} (owned : (m.engines e).owned = true)
    (q : Query) (n : Nat) (script : Option Reply) {reply : Reply}
    (answered : (m.askHistory e (q.limited n) script).1 = reply)
    (backed : ∀ d ∈ reply.deliveries, d.Backed) :
    ((m.collect (some e) (q.limited n) script).1 =
        .error (.limitExceeded (min n Limits.historyValues)) ↔
      min n Limits.historyValues < total reply.deliveries) ∧
    ((m.collect (some e) (q.limited n) script).1 = .error .noData ↔
      total reply.deliveries ≤ min n Limits.historyValues ∧ reply.status = .noData) ∧
    ((m.collect (some e) (q.limited n) script).1 =
        .error (.engine "dcgmGetValuesSince_v2" reply.status) ↔
      total reply.deliveries ≤ min n Limits.historyValues ∧ reply.status ≠ .noData ∧
        reply.status ≠ .ok) ∧
    (∀ r, (m.collect (some e) (q.limited n) script).1 = .ok r ↔
      total reply.deliveries ≤ min n Limits.historyValues ∧ reply.status = .ok ∧
        r = ⟨(gathered reply.deliveries).toArray, reply.cursor.getD q.since⟩) ∧
    ∀ ds, ds <+: reply.deliveries →
      ((Staging.start (min n Limits.historyValues)).receiveAll ds).values.size ≤
        min n Limits.historyValues := by
  have hcollect : (m.collect (some e) (q.limited n) script).1 = (q.limited n).result reply := by
    simp [collect, resolve, owned, answered]
  have hl : (q.limited n).limit ≤ Limits.historyValues := Nat.min_le_right _ _
  obtain ⟨hexceeded, hempty, hrefused, hcomplete⟩ := (result_ended hl reply).exactly
  rw [hcollect, ← length_gathered backed]
  exact ⟨hexceeded, hempty, hrefused, hcomplete,
    fun ds _ => (staged_receiveAll (Nat.min_le_right _ _) ds).bounded⟩

def splitReply (status : Status) : Reply where
  deliveries :=
    [⟨true, 1, 0, some [.ofInt 150 10 61, .ofInt 150 20 62], 2⟩, ⟨true, 1, 0, none, 4⟩,
      ⟨true, 1, 0, some [.ofInt 150 30 63], -1⟩, ⟨true, 1, 1, some [.ofInt 155 40 65], 1⟩]
  cursor := none
  status := status

theorem split_reply_all_or_nothing : ∃ (m : Monitor) (q : Query), (m.engines 0).owned = true ∧
    (∀ status, ∀ d ∈ (splitReply status).deliveries, d.Backed) ∧
    (m.collect (some 0) (q.limited 2) (some (splitReply .timeout))).1 = .error (.limitExceeded 2) ∧
    (m.collect (some 0) (q.limited 3) (some (splitReply .timeout))).1 =
      .error (.engine "dcgmGetValuesSince_v2" .timeout) ∧
    (m.collect (some 0) (q.limited 3) (some (splitReply .ok))).1 =
      .ok ⟨#[.ofRecord 1 0 (.ofInt 150 10 61), .ofRecord 1 0 (.ofInt 150 20 62),
        .ofRecord 1 1 (.ofInt 155 40 65)], 7⟩ := by
  let m := ({} : Monitor).addEngine {}
  let q : Query := { group := 0, fieldGroup := 1, since := 7 }
  have owned : (m.engines 0).owned = true := rfl
  have backed (status : Status) : ∀ d ∈ (splitReply status).deliveries, d.Backed := by
    simp [splitReply, Delivery.Backed]
  have past := (collect_all_or_nothing m owned q 2 (some _) rfl (backed .timeout)).1
  have refused := (collect_all_or_nothing m owned q 3 (some _) rfl (backed .timeout)).2.2.1
  have complete := (collect_all_or_nothing m owned q 3 (some _) rfl (backed .ok)).2.2.2.1
  exact ⟨m, q, owned, backed, past.mpr (by decide), refused.mpr (by decide),
    (complete _).mpr ⟨by decide, rfl, rfl⟩⟩

end Monitor

end GpuTelemetry
