import GpuTelemetry.CommandLine.Run
import GpuTelemetry.Proofs.JsonText
import GpuTelemetry.Proofs.LiveBytes
import Mathlib.Algebra.Ring.Int.Defs
import Mathlib.Data.List.Nodup

namespace GpuTelemetry

open Json (Exact)

theorem EntityGroup.toJson_injective {a b : EntityGroup} (h : a.toJson = b.toJson) : a = b := by
  cases a <;> cases b <;> simp_all [toJson, name, UInt32.toNat_inj]

theorem Kind.toJson_injective {a b : Kind} (h : a.toJson = b.toJson) : a = b := by
  cases a <;> cases b <;> simp_all [toJson, name, UInt16.toNat_inj]

theorem Location.toJson_injective {a b : Location} (h : a.toJson = b.toJson) : a = b := by
  cases a <;> cases b <;> simp_all [toJson, name, UInt32.toNat_inj]

theorem Condition.label_injective {a b : Condition} (h : a.label = b.label) : a = b := by
  cases a <;> cases b <;> simp_all [label]

namespace Status

theorem toJson_cases (s : Status) :
    (∃ c, s = other c) ∨ ∃ e ∈ table, e.status = s ∧ s.toJson = .str e.label := by
  have hnamed (e : Entry) (he : s.entry? = some e) (hjson : s.toJson = .str e.label) :
      ∃ e ∈ table, e.status = s ∧ s.toJson = .str e.label :=
    ⟨e, List.mem_of_find?_eq_some he, by simpa using List.find?_some he, hjson⟩
  cases s with
  | other c => exact .inl ⟨c, rfl⟩
  | _ => exact .inr (hnamed _ rfl rfl)

theorem toJson_injective {a b : Status} (h : a.toJson = b.toJson) : a = b := by
  have hlabels : (table.map Entry.label).Nodup := by decide
  obtain ⟨c, rfl⟩ | ⟨e, he, rfl, hjson⟩ := toJson_cases a
  · obtain ⟨d, rfl⟩ | ⟨f, hf, rfl, hjson'⟩ := toJson_cases b
    · simpa [toJson, Int32.toInt_inj] using h
    · rw [hjson'] at h
      cases h
  · obtain ⟨d, rfl⟩ | ⟨f, hf, rfl, hjson'⟩ := toJson_cases b
    · rw [hjson] at h
      cases h
    · rw [hjson, hjson'] at h
      rw [List.inj_on_of_nodup_map hlabels he hf (Json.str.inj h)]

end Status

namespace Reading

theorem toJson_injective {a b : Reading} (ha : ∀ x, a ≠ real x) (hb : ∀ x, b ≠ real x)
    (h : a.toJson = b.toJson) : a = b := by
  cases a with
  | real x => exact absurd rfl (ha x)
  | int v =>
    cases b with
    | int w => simpa [toJson, Int64.toInt_inj] using h
    | real x => exact absurd rfl (hb x)
    | _ => cases h
  | text v =>
    cases b with
    | text w => simpa [toJson] using h
    | real x => exact absurd rfl (hb x)
    | _ => cases h
  | blob v =>
    cases b with
    | blob w =>
      have hbyte : Function.Injective fun b : UInt8 => Json.int b.toNat := by
        intro b c hbc
        simpa [Int.ofNat_inj, UInt8.toNat_inj] using hbc
      rw [Blob.toList_injective (List.map_injective_iff.mpr hbyte (Json.arr.inj h))]
    | real x => exact absurd rfl (hb x)
    | _ => cases h

theorem toJson_exact {a : Reading} (ha : ∀ x, a ≠ real x) : Exact a.toJson := by
  cases a with
  | int v => exact .int _
  | real x => exact absurd rfl (ha x)
  | text v => exact .str _
  | blob v =>
    refine .arr _ fun j hj => ?_
    obtain ⟨b, -, rfl⟩ := List.mem_map.mp hj
    exact .int _

end Reading

namespace Sample

variable {s t : Sample}

theorem toJson_injective (hs : ∀ x, s.reading ≠ .real x) (ht : ∀ x, t.reading ≠ .real x)
    (h : s.toJson = t.toJson) : s = t := by
  obtain ⟨⟨group, id⟩, field, kind, status, time, reading⟩ := s
  obtain ⟨⟨group', id'⟩, field', kind', status', time', reading'⟩ := t
  simp only [toJson, Entity.toJson, Json.obj.injEq, List.cons.injEq, Prod.mk.injEq, true_and, and_true,
    Json.int.injEq, Int.ofNat_inj, UInt32.toNat_inj, UInt16.toNat_inj, Int64.toInt_inj] at h
  obtain ⟨⟨hgroup, rfl⟩, rfl, hkind, hstatus, rfl, hreading⟩ := h
  obtain rfl := EntityGroup.toJson_injective hgroup
  obtain rfl := Kind.toJson_injective hkind
  obtain rfl := Status.toJson_injective hstatus
  obtain rfl := Reading.toJson_injective hs ht hreading
  rfl

theorem toJson_exact (hs : ∀ x, s.reading ≠ .real x) : Exact s.toJson := by
  have hgroup : Exact s.entity.group.toJson := by
    cases s.entity.group with
    | other c => exact .tagged _ _
    | _ => exact .str _
  have hentity : Exact s.entity.toJson := .obj _ (by simp [hgroup, Exact.int])
  have hkind : Exact s.kind.toJson := by
    cases s.kind with
    | unknown t => exact .tagged _ _
    | _ => exact .str _
  have hstatus : Exact s.status.toJson := by
    cases s.status with
    | other c => exact .tagged _ _
    | _ => exact .str _
  exact .obj _ (by simp [hentity, hkind, hstatus, Exact.int, Reading.toJson_exact hs])

end Sample

theorem Detail.jsonFields_injective {a b : Detail} (h : a.jsonFields = b.jsonFields) : a = b := by
  cases a <;> cases b <;>
    simp_all [jsonFields, UInt32.toNat_inj, UInt16.toNat_inj]
  exact Location.toJson_injective h.1

namespace Violation

variable {v w : Violation}

theorem toJson_injective (h : v.toJson = w.toJson) : v = w := by
  obtain ⟨condition, gpu, time, detail⟩ := v
  obtain ⟨condition', gpu', time', detail'⟩ := w
  simp only [toJson, Json.obj.injEq, List.cons.injEq, Prod.mk.injEq, true_and, and_true, Json.int.injEq,
    Json.str.injEq, Int.ofNat_inj, UInt32.toNat_inj, Int64.toInt_inj] at h
  obtain ⟨hcondition, rfl, rfl, hdetail⟩ := h
  obtain rfl := Condition.label_injective hcondition
  obtain rfl := Detail.jsonFields_injective hdetail
  rfl

theorem toJson_exact (v : Violation) : Exact v.toJson := by
  have hdetail : Exact (.obj v.detail.jsonFields) := by
    cases v.detail with
    | doubleBitError l n =>
      have hlocation : Exact l.toJson := by
        cases l with
        | unknown c => exact .tagged _ _
        | _ => exact .str _
      exact .obj _ (by simp [Detail.jsonFields, hlocation, Exact.int, Exact.str])
    | _ => exact .obj _ (by simp [Detail.jsonFields, Exact.int, Exact.str])
  exact .obj _ (by simp [hdetail, Exact.int, Exact.str])

end Violation

namespace CommandLine

def printed (lines : List String) : List Char := lines.flatMap fun l => l.toList ++ ['\n']

theorem splitOn_printed {lines : List String} (h : ∀ l ∈ lines, Json.Plain l.toList) :
    (printed lines).splitOn '\n' = lines.map String.toList ++ [[]] := by
  induction lines with
  | nil => rfl
  | cons l lines ih =>
    have hbreak : '\n' ∉ l.toList := fun hmem => absurd (h l List.mem_cons_self _ hmem) (by decide)
    have hnext : printed (l :: lines) = l.toList ++ '\n' :: printed lines := by simp [printed]
    rw [hnext, List.splitOn_append_cons_self_of_not_mem hbreak,
      ih fun l hl => h l (List.mem_cons_of_mem _ hl)]
    rfl

theorem splitOn_printed_json {α : Type} {line : α → String} {json : α → Json}
    (hline : ∀ x, line x = (json x).text) (xs : List α) :
    (printed (xs.map line)).splitOn '\n' = xs.map (fun x => (json x).text.toList) ++ [[]] := by
  rw [splitOn_printed, List.map_map]
  · simp only [Function.comp_def, hline]
  · intro l hl
    obtain ⟨x, -, rfl⟩ := List.mem_map.mp hl
    rw [hline, Json.text, String.toList_ofList]
    exact Json.plain_render (json x)

/-- Whatever is printed as JSON takes a line of its own, and the line tells what it was printed for. -/
theorem json_line_tells_value :
    (∀ s t : Sample, (∀ x, s.reading ≠ .real x) → (∀ x, t.reading ≠ .real x) →
      s.toJson.text = t.toJson.text → s = t) ∧
    (∀ v w : Violation, v.toJson.text = w.toJson.text → v = w) ∧
    (∀ s : Sample, ∀ c ∈ s.toJson.text.toList, 32 ≤ c.toNat) ∧
    (∀ v : Violation, ∀ c ∈ v.toJson.text.toList, 32 ≤ c.toNat) ∧
    (∀ ss : List Sample,
      (printed (ss.map (latestLine true))).splitOn '\n' = ss.map (·.toJson.text.toList) ++ [[]] ∧
      (printed (ss.map (sinceLine true))).splitOn '\n' = ss.map (·.toJson.text.toList) ++ [[]]) ∧
    ∀ vs : List Violation,
      (printed (vs.map (violationLine true))).splitOn '\n' = vs.map (·.toJson.text.toList) ++ [[]] := by
  have hplain (j : Json) : ∀ c ∈ j.text.toList, 32 ≤ c.toNat := by
    rw [Json.text, String.toList_ofList]
    exact j.plain_render
  refine ⟨fun s t hs ht h => ?_, fun v w h => ?_, fun s => hplain _, fun v => hplain _,
    fun ss => ⟨?_, ?_⟩, fun vs => ?_⟩
  · exact Sample.toJson_injective hs ht
      (Json.text_injective (Sample.toJson_exact hs) (Sample.toJson_exact ht) h)
  · exact Violation.toJson_injective (Json.text_injective v.toJson_exact w.toJson_exact h)
  · exact splitOn_printed_json (fun _ => rfl) ss
  · exact splitOn_printed_json (fun _ => rfl) ss
  · exact splitOn_printed_json (fun _ => rfl) vs

theorem text_like_blob_told_apart :
    (⟨.gpu 0, 50, .string, .ok, 7, .text "[1]\n"⟩ : Sample).toJson.text ≠
      (⟨.gpu 0, 50, .string, .ok, 7, .blob (.ofBytes [1])⟩ : Sample).toJson.text := fun h =>
  absurd (json_line_tells_value.1 _ _ (fun _ => Reading.noConfusion) (fun _ => Reading.noConfusion) h)
    (by decide)

end CommandLine

end GpuTelemetry
