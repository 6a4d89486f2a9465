import Mathlib.Data.List.Induction

namespace GpuTelemetry

variable {σ α : Type} {step : σ → α → Option σ} {s t : σ}

theorem foldlM_concat {as : List α} {a : α} :
    (as ++ [a]).foldlM step s = some t ↔ ∃ n, as.foldlM step s = some n ∧ step n a = some t := by
  simp [List.foldlM_append, Option.bind_eq_bind, Option.bind_eq_some_iff]

theorem foldlM_induction {P : List α → σ → Prop} (start : P [] s)
    (next : ∀ as n a n', as.foldlM step s = some n → P as n → step n a = some n' → P (as ++ [a]) n')
    (as : List α) : ∀ n, as.foldlM step s = some n → P as n := by
  induction as using List.reverseRecOn with
  | nil =>
    intro n h
    cases h
    exact start
  | append_singleton as a ih =>
    intro n' h
    obtain ⟨n, hn, ha⟩ := foldlM_concat.mp h
    exact next as n a n' hn (ih n hn) ha

theorem getElem?_eraseIdx_shift {β : Type} {l : List β} {i p : Nat} (hi : i ≠ p) :
    (l.eraseIdx i)[if i < p then p - 1 else p]? = l[p]? := by
  rw [List.getElem?_eraseIdx]
  by_cases hlt : i < p
  · have hnot : ¬ p - 1 < i := by omega
    have hback : p - 1 + 1 = p := by omega
    simp [hlt, hnot, hback]
  · have hlt' : p < i := by omega
    simp [hlt, hlt']

end GpuTelemetry
