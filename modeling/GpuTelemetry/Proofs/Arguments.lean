import GpuTelemetry.CommandLine.Command
import GpuTelemetry.Proofs.JsonText
import Mathlib.Data.List.TakeWhile

namespace GpuTelemetry.CommandLine

section numbers

theorem digits?_toDigits (n : Nat) : digits? (Nat.toDigits 10 n) = some n := by
  have hdigits : (Nat.toDigits 10 n).all Char.isDigit = true :=
    List.all_eq_true.mpr fun _ => Json.isDigit_of_mem_toDigits
  have hsome : (Nat.toDigits 10 n).isEmpty = false := by simp
  have hvalue : (Nat.toDigits 10 n).foldl (fun n c => n * 10 + (c.toNat - 48)) 0 = n := by
    simp only [Nat.mul_comm _ 10]
    exact Nat.ofDigitChars_eq_foldl.symm.trans (by simp)
  rw [digits?, hdigits, hsome, hvalue]
  rfl

theorem toDigits_cons (n : Nat) : ∃ c cs, Nat.toDigits 10 n = c :: cs ∧ c.isDigit = true := by
  cases hds : Nat.toDigits 10 n with
  | nil => exact absurd hds Nat.toDigits_ne_nil
  | cons c cs => exact ⟨c, cs, rfl, Json.isDigit_of_mem_toDigits (hds ▸ List.mem_cons_self)⟩

theorem ne_of_isDigit {c d : Char} (hc : c.isDigit = true) (hd : d.isDigit = false) : c ≠ d := by
  rintro rfl
  simp [hc] at hd

theorem integer?_toDigits {n : Nat} {max : Int} (h : n ≤ max) :
    integer? 0 max (String.ofList (Nat.toDigits 10 n)) = some (n : Int) := by
  have hvalue := digits?_toDigits n
  obtain ⟨c, cs, hds, hc⟩ := toDigits_cons n
  rw [hds] at hvalue ⊢
  unfold integer?
  rw [String.toList_ofList]
  split
  · rename_i heq
    exact absurd (List.cons.inj heq).1 (ne_of_isDigit hc (by decide))
  · rename_i heq
    exact absurd (List.cons.inj heq).1 (ne_of_isDigit hc (by decide))
  · simp [hvalue, h]

end numbers

section lists

theorem pieces_of_not_mem {separator : Char} {cs : List Char} (h : separator ∉ cs) :
    pieces separator cs = [cs] := by
  induction cs with
  | nil => rfl
  | cons c cs ih =>
    rw [List.mem_cons, not_or] at h
    simp [pieces, Ne.symm h.1, ih h.2]

theorem pieces_append {separator : Char} {cs : List Char} (h : separator ∉ cs) (rest : List Char) :
    pieces separator (cs ++ separator :: rest) = cs :: pieces separator rest := by
  induction cs with
  | nil => simp [pieces]
  | cons c cs ih =>
    rw [List.mem_cons, not_or] at h
    simp [pieces, Ne.symm h.1, ih h.2]

theorem pieces_listed {α : Type} {write : α → List Char} (h : ∀ x, ',' ∉ write x) {xs : List α}
    (some_item : xs ≠ []) : pieces ',' (Json.listed write xs) = xs.map write := by
  cases xs with
  | nil => exact absurd rfl some_item
  | cons x rest =>
    clear some_item
    induction rest generalizing x with
    | nil => simp [Json.listed, pieces_of_not_mem (h x)]
    | cons y rest ih =>
      have hnext : Json.listed write (x :: y :: rest) =
          write x ++ ',' :: Json.listed write (y :: rest) := by simp [Json.listed]
      rw [hnext, pieces_append (h x), ih y]
      rfl

def numbersWord (ns : List Nat) : String := String.ofList (Json.listed (Nat.toDigits 10) ns)

theorem comma_not_mem_toDigits (n : Nat) : ',' ∉ Nat.toDigits 10 n := fun h =>
  absurd (Json.isDigit_of_mem_toDigits h) (by decide)

theorem pieces_numbersWord {ns : List Nat} (h : ns ≠ []) :
    (pieces ',' (numbersWord ns).toList).map String.ofList =
      ns.map fun n => String.ofList (Nat.toDigits 10 n) := by
  rw [numbersWord, String.toList_ofList, pieces_listed comma_not_mem_toDigits h, List.map_map]
  rfl

theorem Given.list_numbers {g : Given} {name : String} {ns : List Nat} (default : List String)
    (h : ns ≠ []) (once : g.filter (·.1 == name) = [(name, numbersWord ns)]) :
    g.list name default = ns.map fun n => String.ofList (Nat.toDigits 10 n) := by
  have hmem : (name, numbersWord ns) ∈ g.filter (·.1 == name) := by simp [once]
  have hhas : g.has name = true :=
    List.any_eq_true.mpr ⟨_, (List.mem_filter.mp hmem).1, by simp⟩
  rw [Given.list, if_pos hhas, once, List.flatMap_singleton]
  exact pieces_numbersWord h

theorem mapM_integer? {max : Int} {ns : List Nat} (h : ∀ n ∈ ns, (n : Int) ≤ max) :
    (ns.map fun n => String.ofList (Nat.toDigits 10 n)).mapM (integer? 0 max) =
      some (ns.map Int.ofNat) := by
  induction ns with
  | nil => rfl
  | cons n ns ih =>
    rw [List.forall_mem_cons] at h
    rw [List.map_cons, List.mapM_cons, integer?_toDigits h.1, ih h.2]
    rfl

theorem numbersWord_cons {ns : List Nat} (h : ns ≠ []) :
    ∃ c cs, (numbersWord ns).toList = c :: cs ∧ c ≠ '-' := by
  cases ns with
  | nil => exact absurd rfl h
  | cons n ns =>
    obtain ⟨c, cs, hds, hc⟩ := toDigits_cons n
    have hword : (numbersWord (n :: ns)).toList =
        c :: (cs ++ ns.flatMap fun m => ',' :: Nat.toDigits 10 m) := by
      rw [numbersWord, String.toList_ofList, Json.listed, hds, List.cons_append]
    exact ⟨c, _, hword, ne_of_isDigit hc (by decide)⟩

theorem isPlain_numbersWord {ns : List Nat} (h : ns ≠ []) : isPlain (numbersWord ns) = true := by
  obtain ⟨c, cs, hchars, hhyphen⟩ := numbersWord_cons h
  rw [isPlain, hchars]
  unfold Word.classify
  split <;> simp_all

theorem isVersionFlag_numbersWord {ns : List Nat} (h : ns ≠ []) :
    isVersionFlag (numbersWord ns) = false := by
  obtain ⟨c, cs, hchars, hhyphen⟩ := numbersWord_cons h
  have hother : numbersWord ns ≠ "--version" := by
    intro heq
    rw [heq] at hchars
    exact hhyphen (List.cons.inj hchars).1.symm
  unfold isVersionFlag
  split
  · rename_i heq
    rw [hchars] at heq
    exact absurd (List.cons.inj heq).1 hhyphen
  · simpa using hother

end lists

section options

variable {specs : List Spec} {spec : Spec} {seen : Given} {arg value : String} {name : List Char}
  (known : specs.find? (·.name.toList == name) = some spec)
  (long : Word.classify arg.toList = .long name none)
include known long

theorem scan_flag (flag : spec.arity = .flag) (fresh : seen.any (·.1 == spec.name) = false)
    (rest : List String) :
    scan specs seen (arg :: rest) = scan specs (seen ++ [(spec.name, "")]) rest := by
  have hadd : add seen spec "" = some (seen ++ [(spec.name, "")]) := by simp [add, fresh]
  simp only [scan, long, known, flag, hadd, Option.bind_some]

theorem scan_list (list : spec.arity = .list) (plain : isPlain value = true) (rest : List String) :
    scan specs seen (arg :: value :: rest) = scan specs (seen ++ [(spec.name, value)]) rest := by
  have hadd : add seen spec value = some (seen ++ [(spec.name, value)]) := by simp [add, list]
  simp only [scan, long, known, list, plain, if_true, hadd, Option.bind_some]

end options

def latestOptions (live : Bool) (gpus : List UInt32) (fields : List UInt16) : List String :=
  ["--gpus", numbersWord (gpus.map UInt32.toNat), "--fields", numbersWord (fields.map UInt16.toNat)] ++
    if live then ["--live"] else []

def latestWords (json live : Bool) (gpus : List UInt32) (fields : List UInt16) : List String :=
  (if json then ["--mock", "--json"] else ["--mock"]) ++ "latest" :: latestOptions live gpus fields

def flagGiven (name : String) (given : Bool) : Given := if given then [(name, "")] else []

def latestGiven (live : Bool) (gpus : List UInt32) (fields : List UInt16) : Given :=
  [("gpus", numbersWord (gpus.map UInt32.toNat)), ("fields", numbersWord (fields.map UInt16.toNat))] ++
    flagGiven "live" live

section latest

variable {gpus : List UInt32} {fields : List UInt16} (some_gpu : gpus ≠ []) (some_field : fields ≠ [])
include some_gpu some_field

theorem scan_latest (live : Bool) :
    scan (globalSpecs ++ latestSpecs) [] (latestOptions live gpus fields) =
      some (latestGiven live gpus fields, []) := by
  have hgpus : isPlain (numbersWord (gpus.map UInt32.toNat)) = true :=
    isPlain_numbersWord (by simpa using some_gpu)
  have hfields : isPlain (numbersWord (fields.map UInt16.toNat)) = true :=
    isPlain_numbersWord (by simpa using some_field)
  have hasGpus : (globalSpecs ++ latestSpecs).find? (·.name.toList == "gpus".toList) =
      some ⟨"gpus", .list⟩ := rfl
  have hasFields : (globalSpecs ++ latestSpecs).find? (·.name.toList == "fields".toList) =
      some ⟨"fields", .list⟩ := rfl
  have hasLive : (globalSpecs ++ latestSpecs).find? (·.name.toList == "live".toList) =
      some ⟨"live", .flag⟩ := rfl
  rw [latestOptions, List.cons_append, List.cons_append, List.cons_append, List.cons_append,
    List.nil_append, scan_list hasGpus rfl rfl hgpus, scan_list hasFields rfl rfl hfields]
  cases live with
  | false => rfl
  | true =>
    rw [if_pos rfl, scan_flag hasLive rfl rfl rfl]
    rfl

theorem command?_latest (live : Bool) :
    command? "latest" (latestGiven live gpus fields) = some (.latest gpus fields live) := by
  have hgpus : ∀ n ∈ gpus.map UInt32.toNat, (n : Int) ≤ 0xffffffff := by
    intro n hn
    obtain ⟨g, -, rfl⟩ := List.mem_map.mp hn
    have hlt := g.toNat_lt
    omega
  have hfields : ∀ n ∈ fields.map UInt16.toNat, (n : Int) ≤ 0xffff := by
    intro n hn
    obtain ⟨f, -, rfl⟩ := List.mem_map.mp hn
    have hlt := f.toNat_lt
    omega
  have hgpu_words : (latestGiven live gpus fields).list "gpus" ["0"] =
      (gpus.map UInt32.toNat).map fun n => String.ofList (Nat.toDigits 10 n) :=
    Given.list_numbers _ (by simpa using some_gpu) (by cases live <;> rfl)
  have hfield_words : (latestGiven live gpus fields).list "fields" ["150", "155"] =
      (fields.map UInt16.toNat).map fun n => String.ofList (Nat.toDigits 10 n) :=
    Given.list_numbers _ (by simpa using some_field) (by cases live <;> rfl)
  have hlive : (latestGiven live gpus fields).has "live" = live := by cases live <;> rfl
  rw [command?, hgpu_words, hfield_words, mapM_integer? hgpus, mapM_integer? hfields, hlive]
  simp [Function.comp_def]

theorem invocation?_latestWords (json live : Bool) :
    invocation? (latestWords json live gpus fields) =
      some ⟨true, none, json, .latest gpus fields live⟩ := by
  have hbefore (rest : List String) :
      scan globalSpecs [] ((if json then ["--mock", "--json"] else ["--mock"]) ++ "latest" :: rest) =
        some (("mock", "") :: flagGiven "json" json, "latest" :: rest) := by
    cases json <;> rfl
  have hspecs : specsOf "latest" = latestSpecs := rfl
  simp only [invocation?, latestWords, hbefore, hspecs, scan_latest some_gpu some_field live,
    command?_latest some_gpu some_field live, Option.bind_eq_bind, Option.bind_some]
  cases json <;> cases live <;> rfl

theorem asksVersion_latestWords (json live : Bool) :
    asksVersion (latestWords json live gpus fields) = false := by
  have hgpus : isVersionFlag (numbersWord (gpus.map UInt32.toNat)) = false :=
    isVersionFlag_numbersWord (by simpa using some_gpu)
  have hfields : isVersionFlag (numbersWord (fields.map UInt16.toNat)) = false :=
    isVersionFlag_numbersWord (by simpa using some_field)
  have hwhole : (latestWords json live gpus fields).takeWhile (fun a => !isVersionFlag a) =
      latestWords json live gpus fields := by
    rw [List.takeWhile_eq_self_iff]
    -- only the two lists are not fixed words
    cases json <;> cases live <;> simp [latestWords, latestOptions, hgpus, hfields] <;> decide
  rw [asksVersion]
  simp only [hwhole, Nat.lt_irrefl, decide_false, Bool.false_and]

end latest

end GpuTelemetry.CommandLine
