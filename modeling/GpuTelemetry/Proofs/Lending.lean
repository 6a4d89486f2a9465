import GpuTelemetry.Proofs.Steps
import GpuTelemetry.Reserve
import Mathlib.Algebra.GroupWithZero.Nat
import Mathlib.Algebra.Order.BigOperators.Group.List
import Mathlib.Algebra.Order.Group.Nat
import Mathlib.Data.List.Perm.Basic

/-!
Runs of a reserve. Buffers are lent, written to and given back in any order; at every point what is idle
is empty and within the three caps, and what is out fits the request that it serves.
-/

namespace GpuTelemetry

theorem Limits.saturate_le {n k : Nat} (h : k < maxWord) : saturate n ≤ k ↔ n ≤ k := by
  unfold saturate
  omega

theorem Buffer.resize_of_empty {α : Type} {b : Buffer α} (h : b.slots = #[]) (size : Nat) (x : α) :
    (b.resize size x).slots = Array.replicate size x := by
  simp [resize, h]

theorem Buffer.size_resize {α : Type} (b : Buffer α) (size : Nat) (x : α) :
    (b.resize size x).slots.size = size := by
  simp only [resize, Array.take_eq_extract, Array.size_append, Array.size_extract, Array.size_replicate]
  omega

namespace Reserve

variable {α : Type} {r r' : Reserve α} {b : Buffer α} {size : Nat}

theorem size_lend (r : Reserve α) (size : Nat) : (r.lend size).1.slots.size = size :=
  Buffer.size_resize _ _ _

theorem removeSwap_perm {β : Type} {l : List β} {i : Nat} (h : i < l.length) (d : β) :
    (l.getD i d :: removeSwap l i).Perm l := by
  obtain rfl | ⟨front, x, hl⟩ := l.eq_nil_or_concat
  · simp at h
  · -- the last buffer takes the place of the one that goes
    rw [List.concat_eq_append] at hl
    subst hl
    obtain hi | rfl : i < front.length ∨ i = front.length := by
      simp at h
      omega
    · have hset : removeSwap (front ++ [x]) i = front.set i x := by
        simp [removeSwap, List.set_append_left _ _ hi]
      have hget : (front ++ [x]).getD i d = front[i]?.getD x := by
        simp [List.getElem?_append_left hi, hi]
      rw [hset, hget]
      exact (front.getD_set_perm_cons i x).trans (List.perm_append_singleton x front).symm
    · simpa [removeSwap] using (List.perm_append_singleton x front).symm

inductive Picked (r : Reserve α) (size : Nat) : Buffer α × Reserve α → Prop
  | idle (b : Buffer α) (rest : List (Buffer α)) (fits : fits size b = true)
      (split : (b :: rest).Perm r.idle) : Picked r size (b, { r with idle := rest })
  | fresh : Picked r size (⟨size, #[]⟩, r)

theorem pick_cases (r : Reserve α) (size : Nat) : Picked r size (r.pick size) := by
  unfold pick
  split
  · rename_i i hi
    obtain ⟨hlt, hfits, -⟩ := List.findIdx?_eq_some_iff_getElem.mp hi
    apply Picked.idle
    · simpa [hlt] using hfits
    · exact removeSwap_perm hlt _
  · exact .fresh

theorem fits_iff : fits size b = true ↔
    size ≤ b.capacity ∧ b.capacity ≤ Limits.saturate (size * Limits.reserveFit) := by
  simp [fits]

theorem isOversized_iff : r.isOversized b ↔ r.maxSlots < b.capacity := by
  simp [isOversized]

theorem giveBack_cases (r : Reserve α) (b : Buffer α) :
    r.giveBack b = r ∨ (b.capacity ≤ r.maxSlots ∧ r.idle.length < r.maxBuffers ∧
      Limits.saturate (r.idleBytes + r.byteSize b) ≤ r.maxBytes ∧
      r.giveBack b = { r with idle := r.idle ++ [b.clear] }) := by
  unfold giveBack
  simp only
  split
  · exact .inl rfl
  · split
    · exact .inl rfl
    · split
      · exact .inl rfl
      · rename_i hover hroom hbytes
        have hcapacity : ¬ r.maxSlots < b.capacity := fun hlt => hover (isOversized_iff.mpr hlt)
        exact .inr ⟨Nat.le_of_not_lt hcapacity, Nat.lt_of_not_le hroom, Nat.le_of_not_lt hbytes, rfl⟩

theorem lend?_eq_some (h : r.lend? size = some (b, r')) : r.lend size = (b, r') := by
  unfold lend? at h
  split at h
  · cases h
  · exact Option.some.inj h

theorem lend?_of_small (h : size * r.layout.bytes ≤ Limits.maxAllocation) :
    r.lend? size = some (r.lend size) := by
  have hnot : ¬ Limits.maxAllocation < size * r.layout.bytes := Nat.not_lt.mpr h
  simp [lend?, hnot]

def heldBytes (r : Reserve α) : Nat := (r.idle.map fun b => b.capacity * r.layout.bytes).sum

structure Sound (r : Reserve α) : Prop where
  buffers : r.idle.length ≤ r.maxBuffers
  bytes : r.heldBytes ≤ r.maxBytes
  empty : ∀ b ∈ r.idle, b.slots = #[]
  slots : ∀ b ∈ r.idle, b.capacity ≤ r.maxSlots

theorem byteSize_of_held (hcap : r.maxBytes < Limits.maxWord) (bytes : r.heldBytes ≤ r.maxBytes) :
    ∀ b ∈ r.idle, r.byteSize b = b.capacity * r.layout.bytes := by
  intro b hb
  have hmem : b.capacity * r.layout.bytes ∈ r.idle.map fun b => b.capacity * r.layout.bytes :=
    List.mem_map_of_mem hb
  have hle : b.capacity * r.layout.bytes ≤ r.heldBytes := List.le_sum_of_mem hmem
  unfold byteSize Limits.saturate
  omega

theorem idleBytes_eq (hcap : r.maxBytes < Limits.maxWord) (bytes : r.heldBytes ≤ r.maxBytes) :
    r.idleBytes = r.heldBytes := by
  have hsum : r.idleBytes = (r.idle.map r.byteSize).sum := by
    simp [idleBytes, List.sum_eq_foldr, List.foldr_map]
  rw [hsum, heldBytes, List.map_congr_left (byteSize_of_held hcap bytes)]

theorem heldBytes_split {rest : List (Buffer α)} (split : (b :: rest).Perm r.idle) :
    b.capacity * r.layout.bytes + heldBytes { r with idle := rest } = r.heldBytes := by
  simpa [heldBytes] using (split.map fun c => c.capacity * r.layout.bytes).sum_eq

theorem Sound.picked (h : r.Sound) {x : Buffer α × Reserve α} (hp : Picked r size x) : x.2.Sound := by
  cases hp with
  | idle b rest fits split =>
    have hmem (c : Buffer α) (hc : c ∈ rest) : c ∈ r.idle :=
      split.subset (List.mem_cons_of_mem b hc)
    have hlen : rest.length + 1 = r.idle.length := by simpa using split.length_eq
    have hsum := heldBytes_split split
    have hbuffers := h.buffers
    have hbytes := h.bytes
    refine ⟨?_, ?_, fun c hc => h.empty c (hmem c hc), fun c hc => h.slots c (hmem c hc)⟩
    · change rest.length ≤ r.maxBuffers
      omega
    · change heldBytes { r with idle := rest } ≤ r.maxBytes
      omega
  | fresh => exact h

theorem Sound.giveBack (h : r.Sound) (hcap : r.maxBytes < Limits.maxWord) (b : Buffer α) :
    (r.giveBack b).Sound := by
  obtain hsame | ⟨hslots, hroom, hbytes, hback⟩ := r.giveBack_cases b
  · rw [hsame]
    exact h
  · rw [hback]
    -- with a cap below the largest word, the test that cuts off is as good as the exact one
    rw [Limits.saturate_le hcap, idleBytes_eq hcap h.bytes] at hbytes
    have hexact : r.byteSize b = b.capacity * r.layout.bytes := by
      have hlt : r.byteSize b < Limits.maxWord := by omega
      unfold byteSize Limits.saturate at hlt ⊢
      omega
    refine ⟨?_, ?_, fun c hc => ?_, fun c hc => ?_⟩
    · rw [List.length_append]
      exact hroom
    · have hsum : heldBytes { r with idle := r.idle ++ [b.clear] } =
          r.heldBytes + b.capacity * r.layout.bytes := by
        simp [heldBytes, Buffer.clear]
      rw [hsum, ← hexact]
      exact hbytes
    · obtain hc | hc := List.mem_append.mp hc
      · exact h.empty c hc
      · rw [List.mem_singleton.mp hc]
        rfl
    · obtain hc | hc := List.mem_append.mp hc
      · exact h.slots c hc
      · rw [List.mem_singleton.mp hc]
        exact hslots

structure Suits (r : Reserve α) (size : Nat) (b : Buffer α) : Prop where
  length : b.slots.size = size
  least : size ≤ b.capacity
  most : b.capacity ≤ Limits.saturate (size * Limits.reserveFit)
  oversized : r.isOversized b ↔ r.maxSlots < size

theorem Suits.congr {c : Buffer α} (h : r.Suits size b) (slots : r'.maxSlots = r.maxSlots)
    (capacity : c.capacity = b.capacity) (length : c.slots.size = b.slots.size) :
    r'.Suits size c := by
  obtain ⟨hlength, hleast, hmost, hoversized⟩ := h
  rw [isOversized_iff] at hoversized
  refine ⟨by omega, by omega, by omega, ?_⟩
  rw [isOversized_iff]
  omega

theorem Picked.empty (h : r.Sound) (hp : Picked r size (b, r')) : b.slots = #[] := by
  cases hp with
  | idle _ rest fits split => exact h.empty b (split.subset List.mem_cons_self)
  | fresh => rfl

theorem Picked.suits (h : r.Sound) (hsize : size ≤ Limits.maxWord) (hp : Picked r size (b, r')) :
    r.Suits size (b.resize size r.layout.blank) := by
  have hlength : (b.resize size r.layout.blank).slots.size = size := by
    rw [Buffer.resize_of_empty (hp.empty h), Array.size_replicate]
  cases hp with
  | idle _ rest fits split =>
    have hslots : b.capacity ≤ r.maxSlots := h.slots b (split.subset List.mem_cons_self)
    obtain ⟨hleast, hmost⟩ := fits_iff.mp fits
    refine ⟨hlength, hleast, hmost, ?_⟩
    rw [isOversized_iff]
    change r.maxSlots < b.capacity ↔ r.maxSlots < size
    omega
  | fresh =>
    refine ⟨hlength, Nat.le_refl size, ?_, isOversized_iff⟩
    change size ≤ Limits.saturate (size * Limits.reserveFit)
    unfold Limits.saturate Limits.reserveFit
    omega

theorem Sound.lent (h : r.Sound) (hlend : r.lend size = (b, r')) :
    b.slots = Array.replicate size r.layout.blank ∧ r'.Sound ∧ r' = { r with idle := r'.idle } ∧
      (size ≤ Limits.maxWord → r.Suits size b) := by
  have hp := r.pick_cases size
  generalize hx : r.pick size = x at hp
  obtain ⟨c, rest⟩ := x
  simp only [lend, hx, Prod.mk.injEq] at hlend
  obtain ⟨rfl, rfl⟩ := hlend
  refine ⟨Buffer.resize_of_empty (hp.empty h) .., h.picked hp, ?_, fun hsize => hp.suits h hsize⟩
  cases hp <;> rfl

end Reserve

def Buffer.write {α : Type} (b : Buffer α) (slot : Nat) (x : α) : Buffer α :=
  { b with slots := b.slots.setIfInBounds slot x }

structure Loan (α : Type) where
  size : Nat
  buffer : Buffer α

structure Lending (α : Type) where
  reserve : Reserve α
  out : List (Loan α) := []

namespace Lending

inductive Use (α : Type) where
  | acquire (size : Nat)
  | write (k slot : Nat) (x : α)
  | release (k : Nat)

variable {α : Type} {s s' : Lending α} {r₀ : Reserve α} {u : Use α}

def use? (s : Lending α) : Use α → Option (Lending α)
  | .acquire size =>
    if size ≤ Limits.maxWord then
      match s.reserve.lend? size with
      | some (b, reserve) => some ⟨reserve, s.out ++ [⟨size, b⟩]⟩
      | none => some s
    else none
  | .write k slot x =>
    match s.out[k]? with
    | some l => some { s with out := s.out.set k { l with buffer := l.buffer.write slot x } }
    | none => none
  | .release k =>
    match s.out[k]? with
    | some l => some ⟨s.reserve.giveBack l.buffer, s.out.eraseIdx k⟩
    | none => none

def run? (s : Lending α) (uses : List (Use α)) : Option (Lending α) := uses.foldlM use? s

structure Sound (r₀ : Reserve α) (s : Lending α) : Prop where
  config : s.reserve = { r₀ with idle := s.reserve.idle }
  idle : s.reserve.Sound
  out : ∀ l ∈ s.out, r₀.Suits l.size l.buffer

theorem Sound.maxSlots_eq (h : s.Sound r₀) : r₀.maxSlots = s.reserve.maxSlots := by
  rw [h.config]

theorem Sound.maxBytes_lt (h : s.Sound r₀) (hcap : r₀.maxBytes < Limits.maxWord) :
    s.reserve.maxBytes < Limits.maxWord := by
  rw [h.config]
  exact hcap

theorem Sound.lent {size : Nat} {b : Buffer α} {r : Reserve α} (h : s.Sound r₀)
    (hsize : size ≤ Limits.maxWord) (hlend : s.reserve.lend size = (b, r)) :
    Sound r₀ ⟨r, s.out ++ [⟨size, b⟩]⟩ := by
  obtain ⟨-, hidle, hconfig, hsuits⟩ := h.idle.lent hlend
  refine ⟨?_, hidle, fun l hl => ?_⟩
  · have hr₀ := h.config
    rw [hconfig, hr₀]
  · obtain hl | hl := List.mem_append.mp hl
    · exact h.out l hl
    · rw [List.mem_singleton.mp hl]
      exact (hsuits hsize).congr h.maxSlots_eq rfl rfl

theorem Sound.givenBack (h : s.Sound r₀) (hcap : r₀.maxBytes < Limits.maxWord) (b : Buffer α)
    {out : List (Loan α)} (rest : ∀ l ∈ out, l ∈ s.out) : Sound r₀ ⟨s.reserve.giveBack b, out⟩ := by
  refine ⟨?_, h.idle.giveBack (h.maxBytes_lt hcap) b, fun l hl => h.out l (rest l hl)⟩
  have hr₀ := h.config
  obtain hsame | ⟨-, -, -, hback⟩ := s.reserve.giveBack_cases b
  · rw [hsame]
    exact hr₀
  · rw [hback, hr₀]

theorem Sound.use (h : s.Sound r₀) (hcap : r₀.maxBytes < Limits.maxWord) (hu : s.use? u = some s') :
    s'.Sound r₀ := by
  cases u with
  | acquire size =>
    simp only [use?] at hu
    split at hu
    · rename_i hsize
      split at hu
      · rename_i b r hlend
        cases hu
        exact h.lent hsize (Reserve.lend?_eq_some hlend)
      · cases hu
        exact h
    · cases hu
  | write k slot x =>
    simp only [use?] at hu
    split at hu
    · rename_i l hl
      cases hu
      refine ⟨h.config, h.idle, fun l' hl' => ?_⟩
      obtain hl' | rfl := List.mem_or_eq_of_mem_set hl'
      · exact h.out l' hl'
      · have hlength : (l.buffer.write slot x).slots.size = l.buffer.slots.size :=
          Array.size_setIfInBounds
        exact (h.out l (List.mem_of_getElem? hl)).congr rfl rfl hlength
    · cases hu
  | release k =>
    simp only [use?] at hu
    split at hu
    · rename_i l hl
      cases hu
      exact h.givenBack hcap l.buffer fun l' hl' => List.mem_of_mem_eraseIdx hl'
    · cases hu

theorem Sound.start (hidle : r₀.idle = []) : Sound r₀ ⟨r₀, []⟩ := by
  refine ⟨rfl, ⟨?_, ?_, ?_, ?_⟩, ?_⟩ <;> simp [hidle, Reserve.heldBytes]

theorem sound_of_run {uses : List (Use α)} (hidle : r₀.idle = [])
    (hcap : r₀.maxBytes < Limits.maxWord) (h : run? ⟨r₀, []⟩ uses = some s) : s.Sound r₀ :=
  foldlM_induction (P := fun _ s => Sound r₀ s) (.start hidle)
    (fun _ _ _ _ _ hs hu => hs.use hcap hu) uses s h

/-- Caps, blank loans of the right size class, and returns that keep at most the one buffer: at every
point of every run. -/
theorem reserve_within_caps (r₀ : Reserve α) (hidle : r₀.idle = [])
    (hcap : r₀.maxBytes < Limits.maxWord) (uses : List (Use α)) (s : Lending α)
    (h : run? ⟨r₀, []⟩ uses = some s) :
    (s.reserve.idle.length ≤ r₀.maxBuffers ∧
      s.reserve.idleBytes = (s.reserve.idle.map fun b => b.capacity * r₀.layout.bytes).sum ∧
      (s.reserve.idle.map fun b => b.capacity * r₀.layout.bytes).sum ≤ r₀.maxBytes ∧
      ∀ b ∈ s.reserve.idle, b.slots = #[] ∧ b.capacity ≤ r₀.maxSlots) ∧
    (∀ size ≤ Limits.maxWord, ∀ b r, s.reserve.lend? size = some (b, r) →
      b.slots = Array.replicate size r₀.layout.blank ∧ size ≤ b.capacity ∧
        b.capacity ≤ Limits.saturate (size * Limits.reserveFit) ∧
        (s.reserve.isOversized b ↔ r₀.maxSlots < size)) ∧
    (∀ size, size * r₀.layout.bytes ≤ Limits.maxAllocation → (s.reserve.lend? size).isSome) ∧
    ∀ l ∈ s.out, l.buffer.slots.size = l.size ∧ l.size ≤ l.buffer.capacity ∧
      l.buffer.capacity ≤ Limits.saturate (l.size * Limits.reserveFit) ∧
      (s.reserve.isOversized l.buffer ↔ r₀.maxSlots < l.size) ∧
      (s.reserve.giveBack l.buffer = s.reserve ∨ (l.size ≤ r₀.maxSlots ∧
        s.reserve.giveBack l.buffer =
          { s.reserve with idle := s.reserve.idle ++ [l.buffer.clear] })) := by
  have hs : s.Sound r₀ := sound_of_run hidle hcap h
  have hlayout : s.reserve.layout = r₀.layout := by rw [hs.config]
  have hslots : s.reserve.maxSlots = r₀.maxSlots := hs.maxSlots_eq.symm
  refine ⟨⟨?_, ?_, ?_, fun b hb => ⟨hs.idle.empty b hb, ?_⟩⟩, fun size hsize b r hlend => ?_,
    fun size hsize => ?_, fun l hl => ?_⟩
  · have hbuffers := hs.idle.buffers
    rw [hs.config] at hbuffers
    exact hbuffers
  · rw [Reserve.idleBytes_eq (hs.maxBytes_lt hcap) hs.idle.bytes, Reserve.heldBytes, hlayout]
  · have hbytes := hs.idle.bytes
    rw [Reserve.heldBytes, hlayout] at hbytes
    rw [hs.config] at hbytes
    exact hbytes
  · rw [← hslots]
    exact hs.idle.slots b hb
  · obtain ⟨hblank, -, -, hsuits⟩ := hs.idle.lent (Reserve.lend?_eq_some hlend)
    obtain ⟨-, hleast, hmost, hoversized⟩ := hsuits hsize
    rw [hlayout] at hblank
    rw [hslots] at hoversized
    exact ⟨hblank, hleast, hmost, hoversized⟩
  · rw [← hlayout] at hsize
    rw [Reserve.lend?_of_small hsize]
    rfl
  · obtain ⟨hlength, hleast, hmost, hoversized⟩ := (hs.out l hl).congr hslots rfl rfl
    rw [hslots] at hoversized
    refine ⟨hlength, hleast, hmost, hoversized, ?_⟩
    obtain hsame | ⟨hkept, -, -, hback⟩ := s.reserve.giveBack_cases l.buffer
    · exact .inl hsame
    · exact .inr ⟨by omega, hback⟩

theorem written_buffer_comes_back_blank : ∃ s,
    run? ⟨⟨⟨0, 8⟩, 4, 2, 64, []⟩, []⟩ [.acquire 3, .write 0 1 7, .acquire 5, .release 1, .release 0] =
      some s ∧
    s.reserve.idle.length = 1 ∧ s.reserve.idleBytes = 24 ∧
    ∀ b r, s.reserve.lend? 2 = some (b, r) → b.slots = #[0, 0] ∧ b.capacity ≤ 8 := by
  refine ⟨_, rfl, rfl, rfl, fun b r hlend => ?_⟩
  obtain ⟨-, hlent, -⟩ := reserve_within_caps ⟨⟨0, 8⟩, 4, 2, 64, []⟩ rfl (by decide)
    [.acquire 3, .write 0 1 7, .acquire 5, .release 1, .release 0] _ rfl
  obtain ⟨hblank, -, hmost, -⟩ := hlent 2 (by decide) b r hlend
  exact ⟨hblank, hmost⟩

end Lending

end GpuTelemetry
