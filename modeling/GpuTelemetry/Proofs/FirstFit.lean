import GpuTelemetry.Proofs.Lending

namespace GpuTelemetry

namespace Reserve

variable {α : Type} {r : Reserve α} {b : Buffer α} {size : Nat}

def Window (size capacity : Nat) : Prop := size ≤ capacity ∧ capacity ≤ min (4 * size) Limits.maxWord

instance (size capacity : Nat) : Decidable (Window size capacity) :=
  inferInstanceAs (Decidable (_ ∧ _))

theorem fits_iff_window : fits size b = true ↔ Window size b.capacity := by
  rw [fits_iff, Window, Limits.saturate, Limits.reserveFit, Nat.mul_comm]

theorem removeSwap_last {β : Type} (front : List β) (b : β) :
    removeSwap (front ++ [b]) front.length = front := by
  simp [removeSwap]

theorem removeSwap_inner {β : Type} (front mid : List β) (b x : β) :
    removeSwap (front ++ b :: (mid ++ [x])) front.length = front ++ x :: mid := by
  have hset : (front ++ b :: (mid ++ [x])).set front.length x = (front ++ x :: mid) ++ [x] := by
    simp
  have hlast : (front ++ b :: (mid ++ [x])).getLast? = some x := by
    simp [List.getLast?_append, List.getLast?_cons]
  simp only [removeSwap, hlast, hset, List.dropLast_concat]

theorem pick_of_first {front back : List (Buffer α)} (hidle : r.idle = front ++ b :: back)
    (hfront : ∀ c ∈ front, ¬ fits size c = true) (hb : fits size b = true) :
    r.pick size = (b, { r with idle := removeSwap r.idle front.length }) := by
  have hindex : r.idle.findIdx? (fits size) = some front.length := by
    rw [hidle, List.findIdx?_append, List.findIdx?_eq_none_iff.mpr (by simpa using hfront)]
    simp [List.findIdx?_cons, hb]
  rw [pick, hindex]
  simp [hidle]

theorem pick_of_none (h : ∀ c ∈ r.idle, ¬ fits size c = true) : r.pick size = (⟨size, #[]⟩, r) := by
  rw [pick, List.findIdx?_eq_none_iff.mpr (by simpa using h)]

end Reserve

namespace Lending

open Reserve (Window)

variable {α : Type} {s s' : Lending α} {size : Nat}

theorem use?_of_first (hsize : size ≤ Limits.maxWord) {front back : List (Buffer α)} {b : Buffer α}
    (hidle : s.reserve.idle = front ++ b :: back) (hfront : ∀ c ∈ front, ¬ Window size c.capacity)
    (hb : Window size b.capacity) : s.use? (.acquire size) =
      some ⟨{ s.reserve with idle := Reserve.removeSwap s.reserve.idle front.length },
        s.out ++ [⟨size, b.resize size s.reserve.layout.blank⟩]⟩ := by
  have hfits : Reserve.fits size b = true := Reserve.fits_iff_window.mpr hb
  have hmem : b ∈ s.reserve.idle := by simp [hidle]
  have hany : s.reserve.idle.any (Reserve.fits size) = true := List.any_eq_true.mpr ⟨b, hmem, hfits⟩
  have hpick := Reserve.pick_of_first hidle
    (fun c hc => fun hfit => hfront c hc (Reserve.fits_iff_window.mp hfit)) hfits
  simp [use?, hsize, Reserve.lend?, hany, Reserve.lend, hpick]

section nothing_fits

variable (hnone : ∀ b ∈ s.reserve.idle, ¬ Window size b.capacity)
include hnone

theorem not_any_fits : s.reserve.idle.any (Reserve.fits size) = false := by
  rw [List.any_eq_false]
  exact fun b hb hfits => hnone b hb (Reserve.fits_iff_window.mp hfits)

theorem use?_of_room (hsize : size ≤ Limits.maxWord)
    (hroom : size * s.reserve.layout.bytes ≤ Limits.maxAllocation) :
    s.use? (.acquire size) = some ⟨s.reserve,
      s.out ++ [⟨size, ⟨size, Array.replicate size s.reserve.layout.blank⟩⟩]⟩ := by
  have hpick := Reserve.pick_of_none fun b hb hfits => hnone b hb (Reserve.fits_iff_window.mp hfits)
  simp [use?, hsize, Reserve.lend?_of_small hroom, Reserve.lend, hpick, Buffer.resize]

theorem lend?_of_full (hfull : Limits.maxAllocation < size * s.reserve.layout.bytes) :
    s.reserve.lend? size = none := by
  simp [Reserve.lend?, not_any_fits hnone, hfull]

end nothing_fits

def follow (k : Nat) : Use α → Option Nat
  | .acquire _ => some k
  | .write _ _ _ => some k
  | .release j => if j = k then none else some (if j < k then k - 1 else k)

def followAll (k : Nat) (uses : List (Use α)) : Option Nat := uses.foldlM follow k

theorem capacity_use {u : Use α} {k k' : Nat} {l : Loan α} (hu : s.use? u = some s')
    (hk : follow k u = some k') (hl : s.out[k]? = some l) :
    ∃ l', s'.out[k']? = some l' ∧ l'.buffer.capacity = l.buffer.capacity := by
  have hlt : k < s.out.length := (List.getElem?_eq_some_iff.mp hl).1
  cases u with
  | acquire size =>
    obtain rfl : k = k' := Option.some.inj hk
    simp only [use?] at hu
    split at hu
    · split at hu
      · cases hu
        exact ⟨l, by simpa [List.getElem?_append_left hlt] using hl, rfl⟩
      · cases hu
        exact ⟨l, hl, rfl⟩
    · cases hu
  | write j slot x =>
    obtain rfl : k = k' := Option.some.inj hk
    simp only [use?] at hu
    split at hu
    · rename_i l' hl'
      cases hu
      by_cases hj : j = k
      · subst hj
        obtain rfl := Option.some.inj (hl.symm.trans hl')
        exact ⟨{ l with buffer := l.buffer.write slot x }, by simp [hlt], rfl⟩
      · exact ⟨l, by simpa [List.getElem?_set, hj] using hl, rfl⟩
    · cases hu
  | release j =>
    simp only [follow] at hk
    split at hk
    · cases hk
    · rename_i hj
      obtain rfl := Option.some.inj hk
      simp only [use?] at hu
      split at hu
      · cases hu
        exact ⟨l, (getElem?_eraseIdx_shift hj).trans hl, rfl⟩
      · cases hu

theorem capacity_run {uses : List (Use α)} {k k' : Nat} {l : Loan α} (h : s.run? uses = some s')
    (hk : followAll k uses = some k') (hl : s.out[k]? = some l) :
    ∃ l', s'.out[k']? = some l' ∧ l'.buffer.capacity = l.buffer.capacity := by
  induction uses generalizing s k l with
  | nil =>
    cases h
    cases hk
    exact ⟨l, hl, rfl⟩
  | cons u uses ih =>
    obtain ⟨t, hu, ht⟩ := Option.bind_eq_some_iff.mp h
    obtain ⟨j, hj, hjs⟩ := Option.bind_eq_some_iff.mp hk
    obtain ⟨l₁, hl₁, hsame⟩ := capacity_use hu hj hl
    obtain ⟨l₂, hl₂, hsame'⟩ := ih ht hjs hl₁
    exact ⟨l₂, hl₂, hsame'.trans hsame⟩

/-- What an acquisition does in any state of a reserve and of its loans. -/
theorem acquire_first_fit (s : Lending α) (size : Nat) (hsize : size ≤ Limits.maxWord) :
    (∀ front b back, s.reserve.idle = front ++ b :: back → (∀ c ∈ front, ¬ Window size c.capacity) →
      Window size b.capacity → ∃ lent rest,
        s.use? (.acquire size) =
          some ⟨{ s.reserve with idle := rest }, s.out ++ [⟨size, lent⟩]⟩ ∧
        lent.capacity = b.capacity ∧ lent.slots.size = size ∧ (b :: rest).Perm s.reserve.idle ∧
        (back = [] → rest = front) ∧ ∀ mid x, back = mid ++ [x] → rest = front ++ x :: mid) ∧
    ((∀ b ∈ s.reserve.idle, ¬ Window size b.capacity) →
      (size * s.reserve.layout.bytes ≤ Limits.maxAllocation →
        s.use? (.acquire size) =
          some ⟨s.reserve, s.out ++ [⟨size, ⟨size, Array.replicate size s.reserve.layout.blank⟩⟩]⟩) ∧
      (Limits.maxAllocation < size * s.reserve.layout.bytes →
        s.reserve.lend? size = none ∧ s.use? (.acquire size) = some s ∧
        ∀ uses, s.run? (.acquire size :: uses) = s.run? uses)) ∧
    ∀ uses s' k k' l, s.run? uses = some s' → followAll k uses = some k' → s.out[k]? = some l →
      ∃ l', s'.out[k']? = some l' ∧ l'.buffer.capacity = l.buffer.capacity := by
  refine ⟨fun front b back hidle hfront hb => ?_, fun hnone => ⟨use?_of_room hnone hsize, fun hfull => ?_⟩,
    fun uses s' k k' l => capacity_run⟩
  · refine ⟨_, _, use?_of_first hsize hidle hfront hb, rfl, Buffer.size_resize .., ?_, ?_, ?_⟩
    · have hlt : front.length < s.reserve.idle.length := by simp [hidle]
      have hperm := Reserve.removeSwap_perm hlt b
      have hget : s.reserve.idle.getD front.length b = b := by simp [hidle]
      rwa [hget] at hperm
    · rintro rfl
      rw [hidle, Reserve.removeSwap_last]
    · rintro mid x rfl
      rw [hidle, Reserve.removeSwap_inner]
  · have hrefused := lend?_of_full hnone hfull
    have hsame : s.use? (.acquire size) = some s := by simp [use?, hsize, hrefused]
    refine ⟨hrefused, hsame, fun uses => ?_⟩
    rw [run?, List.foldlM_cons, hsame]
    rfl

theorem nine_serves_four : ∃ lent,
    (⟨⟨⟨0, 8⟩, 16, 4, 256, [⟨2, #[]⟩, ⟨9, #[]⟩, ⟨4, #[]⟩, ⟨5, #[]⟩]⟩, []⟩ : Lending Nat).use? (.acquire 4) =
      some ⟨⟨⟨0, 8⟩, 16, 4, 256, [⟨2, #[]⟩, ⟨5, #[]⟩, ⟨4, #[]⟩]⟩, [⟨4, lent⟩]⟩ ∧
    lent.capacity = 9 ∧ lent.slots.size = 4 := by
  obtain ⟨lent, rest, hlent, hcapacity, hlength, -, -, hmoved⟩ :=
    (acquire_first_fit ⟨⟨⟨0, 8⟩, 16, 4, 256, [⟨2, #[]⟩, ⟨9, #[]⟩, ⟨4, #[]⟩, ⟨5, #[]⟩]⟩, []⟩ 4
      (by decide)).1 [⟨2, #[]⟩] ⟨9, #[]⟩ [⟨4, #[]⟩, ⟨5, #[]⟩] rfl (by decide) (by decide)
  rw [hmoved [⟨4, #[]⟩] ⟨5, #[]⟩ rfl] at hlent
  exact ⟨lent, hlent, hcapacity, hlength⟩

end Lending

end GpuTelemetry
