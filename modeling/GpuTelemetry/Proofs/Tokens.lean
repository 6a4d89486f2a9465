import GpuTelemetry.Proofs.Callers
import GpuTelemetry.Proofs.Lifecycle

namespace GpuTelemetry

@[simp] theorem Scope.cancel_within (s : Scope) (token : Nat) :
    (s.cancel token).within = s.within := by
  unfold cancel
  split <;> rfl

theorem Scope.cancel_fired {s : Scope} {token : Nat} :
    (s.cancel token).fired = true ↔ token ∈ s.within ∨ s.fired = true := by
  unfold cancel
  split <;> simp [*]

namespace Monitor

variable {m m' : Monitor}

structure Encloses (m : Monitor) (sc : Scope) : Prop where
  known : ∀ t ∈ sc.within, t < m.tokens.length
  above : ∀ t ∈ sc.within, (m.scopeOf t).within ⊆ sc.within
  fired : ∀ t ∈ sc.within, m.isCancelled t = true → sc.fired = true

theorem Encloses.of_tokens {sc sc' : Scope} (h : m.Encloses sc) (tokens : m'.tokens = m.tokens)
    (within : sc'.within = sc.within) (fired : sc.fired = true → sc'.fired = true) :
    m'.Encloses sc' := by
  have hscope (t : Nat) : m'.scopeOf t = m.scopeOf t := by simp only [scopeOf, tokens]
  refine ⟨?_, ?_, ?_⟩
  · rw [within, tokens]
    exact h.known
  · rw [within]
    intro t ht
    rw [hscope]
    exact h.above t ht
  · rw [within]
    intro t ht hc
    rw [isCancelled, hscope] at hc
    exact fired (h.fired t ht hc)

section addToken

variable (parent : Option Nat)

theorem scopeOf_addToken {t : Nat} (ht : t < m.tokens.length) :
    (m.addToken parent).scopeOf t = m.scopeOf t := by
  simp [scopeOf, addToken, List.getElem?_append_left ht]

theorem Encloses.addToken {sc : Scope} (h : m.Encloses sc) : (m.addToken parent).Encloses sc := by
  refine ⟨fun t ht => ?_, fun t ht => ?_, fun t ht hc => ?_⟩
  · have := h.known t ht
    simp only [Monitor.addToken, List.length_append, List.length_singleton]
    omega
  · rw [scopeOf_addToken parent (h.known t ht)]
    exact h.above t ht
  · rw [isCancelled, scopeOf_addToken parent (h.known t ht)] at hc
    exact h.fired t ht hc

theorem encloses_under {sc : Scope} (h : m.Encloses sc)
    (last : (m.addToken parent).scopeOf m.tokens.length =
      { sc with within := m.tokens.length :: sc.within }) :
    (m.addToken parent).Encloses { sc with within := m.tokens.length :: sc.within } := by
  have hsc := h.addToken parent
  refine ⟨fun t ht => ?_, fun t ht => ?_, fun t ht hc => ?_⟩
  · obtain rfl | ht := List.mem_cons.mp ht
    · simp [Monitor.addToken]
    · exact hsc.known t ht
  · obtain rfl | ht := List.mem_cons.mp ht
    · rw [last]
      exact List.Subset.refl _
    · exact List.subset_cons_of_subset _ (hsc.above t ht)
  · obtain rfl | ht := List.mem_cons.mp ht
    · rwa [isCancelled, last] at hc
    · exact hsc.fired t ht hc

end addToken

theorem scopeOf_cancelToken (token t : Nat) :
    (m.cancelToken token).scopeOf t = (m.scopeOf t).cancel token := by
  simp only [scopeOf, cancelToken, List.getElem?_map]
  cases m.tokens[t]? with
  | none => simp [Scope.cancel]
  | some sc => rfl

theorem Encloses.cancelToken {sc : Scope} (h : m.Encloses sc) (token : Nat) :
    (m.cancelToken token).Encloses (sc.cancel token) := by
  refine ⟨fun t ht => ?_, fun t ht => ?_, fun t ht hc => ?_⟩
  · rw [Scope.cancel_within] at ht
    simpa [Monitor.cancelToken] using h.known t ht
  · rw [Scope.cancel_within] at ht ⊢
    rw [scopeOf_cancelToken, Scope.cancel_within]
    exact h.above t ht
  · rw [Scope.cancel_within] at ht
    rw [isCancelled, scopeOf_cancelToken, Scope.cancel_fired] at hc
    rw [Scope.cancel_fired]
    obtain hin | hc := hc
    · exact .inl (h.above t ht hin)
    · exact .inr (h.fired t ht hc)

structure Nested (m : Monitor) : Prop where
  self : ∀ t < m.tokens.length, t ∈ (m.scopeOf t).within
  tokens : ∀ t, m.Encloses (m.scopeOf t)
  subscriptions : ∀ s ∈ m.subscriptions, m.Encloses s.scope

theorem mem_within_addToken (h : m.Nested) (parent : Option Nat) (t : Nat)
    (ht : t < (m.addToken parent).tokens.length) :
    t ∈ ((m.addToken parent).scopeOf t).within := by
  by_cases hlt : t < m.tokens.length
  · rw [scopeOf_addToken parent hlt]
    exact h.self t hlt
  · have hlast : t = m.tokens.length := by
      simp only [Monitor.addToken, List.length_append, List.length_singleton] at ht
      omega
    subst hlast
    simp [scopeOf, Monitor.addToken]

theorem Nested.addToken (h : m.Nested) (parent : Option Nat) : (m.addToken parent).Nested := by
  refine ⟨mem_within_addToken h parent, fun t => ?_,
    fun s hs => (h.subscriptions s hs).addToken parent⟩
  obtain hlt | rfl | hgt := Nat.lt_trichotomy t m.tokens.length
  · rw [scopeOf_addToken parent hlt]
    exact (h.tokens t).addToken parent
  · have hnone : m.Encloses ⟨[], false⟩ := ⟨by simp, by simp, by simp⟩
    cases parent with
    | none =>
      have last : (m.addToken none).scopeOf m.tokens.length = ⟨[m.tokens.length], false⟩ := by
        simp [scopeOf, Monitor.addToken]
      rw [last]
      exact encloses_under none hnone last
    | some p =>
      have last : (m.addToken (some p)).scopeOf m.tokens.length =
          { m.scopeOf p with within := m.tokens.length :: (m.scopeOf p).within } := by
        simp [scopeOf, Monitor.addToken]
      rw [last]
      exact encloses_under (some p) (h.tokens p) last
  · have hout : (m.addToken parent).scopeOf t = ⟨[], false⟩ := by
      have hlen : (m.addToken parent).tokens.length ≤ t := by
        simp only [Monitor.addToken, List.length_append, List.length_singleton]
        omega
      simp [scopeOf, List.getElem?_eq_none hlen]
    rw [hout]
    exact ⟨by simp, by simp, by simp⟩

theorem Nested.cancelToken (h : m.Nested) (token : Nat) : (m.cancelToken token).Nested := by
  refine ⟨fun t ht => ?_, fun t => ?_, fun s hs => ?_⟩
  · rw [scopeOf_cancelToken, Scope.cancel_within]
    exact h.self t (by simpa [Monitor.cancelToken] using ht)
  · rw [scopeOf_cancelToken]
    exact (h.tokens t).cancelToken token
  · obtain ⟨u, hu, rfl⟩ := List.mem_map.mp hs
    exact (h.subscriptions u hu).cancelToken token

end Monitor

theorem Subscription.Step.within_eq {m : Monitor} {s s' : Subscription} {a : Action}
    {acc out : List Violation} (h : s.Step m a acc out s') : s'.scope.within = s.scope.within := by
  cases h <;> rfl

namespace Monitor

theorem act?_tokens {m m' : Monitor} {a : Action} (h : m.act? a = some m') :
    m'.tokens = m.tokens ∨ (∃ parent, m' = m.addToken parent) ∨ ∃ token, m' = m.cancelToken token := by
  cases act?_callerEffect h with
  | none same => exact .inl same.tokens
  | engine e same => exact .inl same.tokens
  | active active owned same => exact .inl same.tokens
  | disowned e same => exact .inl same.tokens
  | token parent => exact .inr (.inl ⟨parent, rfl⟩)
  | cancelled token => exact .inr (.inr ⟨token, rfl⟩)
  | asked => exact .inl rfl

theorem Nested.act {m m' : Monitor} {a : Action} (n : m.Nested) (hr : m.Numbered)
    (h : m.act? a = some m') : m'.Nested := by
  obtain tokens | ⟨parent, rfl⟩ | ⟨token, rfl⟩ := act?_tokens h
  · have hscope (t : Nat) : m'.scopeOf t = m.scopeOf t := by simp only [scopeOf, tokens]
    refine ⟨fun t ht => ?_, fun t => ?_, fun s' hs' => ?_⟩
    · rw [hscope]
      exact n.self t (tokens ▸ ht)
    · rw [hscope]
      exact (n.tokens t).of_tokens tokens rfl fun hf => hf
    · obtain ⟨s, hs, acc, out, step, -, -⟩ | ⟨i, r, -, -, -, rfl⟩ := (act?_evolves hr h).origin hs'
      · exact (n.subscriptions s hs).of_tokens tokens step.within_eq step.fired
      · exact (n.tokens r.token).of_tokens tokens rfl fun hf => hf
  · exact n.addToken parent
  · exact n.cancelToken token

theorem Reachable.nested {m : Monitor} (h : Reachable m) : m.Nested := by
  have hnone (t : Nat) : scopeOf {} t = ⟨[], false⟩ := by simp [scopeOf]
  refine h.induction ⟨by simp, fun t => ?_, by simp⟩ fun m a m' hr n h => n.act hr.numbered h
  rw [hnone]
  exact ⟨by simp, by simp, by simp⟩

end Monitor

end GpuTelemetry
