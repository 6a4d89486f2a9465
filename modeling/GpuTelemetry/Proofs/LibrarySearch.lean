import GpuTelemetry.Environment
import GpuTelemetry.Proofs.Opening

namespace GpuTelemetry.Native

variable {load load' : Loader} {mode : Mode} {path : String} {image : Image}

def Unusable (load : Loader) (mode : Mode) (path : String) : Prop :=
  ∃ fault, (openAt load mode path).1 = .error (.library fault)

structure FirstMissing (image : Image) (s : Symbol) : Prop where
  missing : image.exports s = false
  first : ∃ before after, Symbol.all = before ++ s :: after ∧ ∀ t ∈ before, image.exports t = true

theorem find?_eq_some_iff_firstMissing {s : Symbol} :
    (Symbol.all.find? fun s => !image.exports s) = some s ↔ FirstMissing image s := by
  rw [List.find?_eq_some_iff_append]
  constructor
  · rintro ⟨hs, before, after, hsplit, hbefore⟩
    exact ⟨by simpa using hs, before, after, hsplit, by simpa using hbefore⟩
  · rintro ⟨hs, before, after, hsplit, hbefore⟩
    exact ⟨by simpa using hs, before, after, hsplit, by simpa using hbefore⟩

theorem exists_firstMissing (h : ∃ s, image.exports s = false) : ∃ s, FirstMissing image s := by
  obtain ⟨s, hs⟩ := h
  have hsome : (Symbol.all.find? fun s => !image.exports s).isSome = true :=
    List.find?_isSome.mpr ⟨s, s.mem_all, by simp [hs]⟩
  obtain ⟨t, ht⟩ := Option.isSome_iff_exists.mp hsome
  exact ⟨t, find?_eq_some_iff_firstMissing.mp ht⟩

theorem openAt_of_not_loaded (h : load path = none) :
    openAt load mode path = (.error (.library (.notLoaded path)), []) := by
  simp [openAt, h]

theorem openAt_of_firstMissing {s : Symbol} (loaded : load path = some image)
    (h : FirstMissing image s) :
    openAt load mode path = (.error (.library (.missingSymbol s.name)), []) := by
  simp [openAt, loaded, find?_eq_some_iff_firstMissing.mpr h]

theorem openAt_congr (h : load' path = load path) : openAt load' mode path = openAt load mode path := by
  simp only [openAt, h]

theorem unusable_iff : Unusable load mode path ↔
    ∀ image, load path = some image → ∃ s, image.exports s = false := by
  constructor
  · rintro ⟨fault, hfault⟩
    have opened := openAt_opened load mode path
    rw [(openAt_of_unusable hfault).1] at opened
    cases opened with
    | unusable fault no => exact no
  · intro no
    cases hload : load path with
    | none => exact ⟨_, congrArg Prod.fst (openAt_of_not_loaded hload)⟩
    | some image =>
      obtain ⟨s, hs⟩ := exists_firstMissing (no image hload)
      exact ⟨_, congrArg Prod.fst (openAt_of_firstMissing hload hs)⟩

theorem search_eq_openAt {before after : List String}
    (unusable : ∀ p ∈ before, Unusable load mode p) (last : Unusable load mode path → after = [])
    (fault : LibraryFault) : search load mode fault (before ++ path :: after) = openAt load mode path := by
  induction before generalizing fault with
  | nil =>
    rw [List.nil_append]
    obtain ⟨next, hfound, -, -, hsearch⟩ | ⟨-, hsearch⟩ := search_cons load mode fault path after
    · rw [hsearch, last ⟨next, congrArg Prod.fst hfound⟩, hfound]
      rfl
    · exact hsearch
  | cons p before ih =>
    obtain ⟨hp, hbefore⟩ := List.forall_mem_cons.mp unusable
    obtain ⟨fault', hfault⟩ := hp
    have hfound := (openAt_of_unusable hfault).1
    rw [List.cons_append, search, hfound]
    exact ih hbefore fault'

theorem exists_stop (load : Loader) (mode : Mode) {paths : List String} (h : paths ≠ []) :
    ∃ before path after, paths = before ++ path :: after ∧ (∀ p ∈ before, Unusable load mode p) ∧
      (Unusable load mode path → after = []) := by
  induction paths with
  | nil => exact absurd rfl h
  | cons path rest ih =>
    by_cases hstop : Unusable load mode path → rest = []
    · exact ⟨[], path, rest, rfl, by simp, hstop⟩
    · obtain ⟨hpath, hrest⟩ := Classical.not_imp.mp hstop
      obtain ⟨before, next, after, rfl, hbefore, hlast⟩ := ih hrest
      exact ⟨path :: before, next, after, rfl, List.forall_mem_cons.mpr ⟨hpath, hbefore⟩, hlast⟩

structure StopsAt (load : Loader) (mode : Mode) (before : List String) (path : String)
    (after : List String) : Prop where
  order : searchPaths = before ++ path :: after
  unusable : ∀ p ∈ before, Unusable load mode p
  last : Unusable load mode path → after = []

theorem StopsAt.congr {before after : List String} (h : StopsAt load mode before path after)
    (same : ∀ p ∈ before ++ [path], load' p = load p) : StopsAt load' mode before path after := by
  have hiff (p : String) (hp : p ∈ before ++ [path]) :
      Unusable load' mode p ↔ Unusable load mode p := by
    rw [Unusable, openAt_congr (same p hp), Unusable]
  refine ⟨h.order, fun p hp => ?_, fun hpath => h.last ?_⟩
  · exact (hiff p (List.mem_append_left _ hp)).mpr (h.unusable p hp)
  · exact (hiff path (List.mem_append_right _ (List.mem_singleton_self path))).mp hpath

def pathGiven (value : Option String) : Option (List UInt8) :=
  Environment.libraryPath (value.map fun s => Text.Utf8.encode s.toList)

theorem pathGiven_eq_none_iff {value : Option String} :
    pathGiven value = none ↔ value.filter (!·.isEmpty) = none := by
  have hempty (s : String) : Text.Utf8.encode s.toList = [] ↔ s = "" := by
    rw [Text.Utf8.encode, List.flatMap_eq_nil_iff, ← String.toList_eq_nil_iff,
      List.eq_nil_iff_forall_not_mem]
    simp only [String.utf8EncodeChar_ne_nil, imp_false]
  cases value with
  | none => simp [pathGiven, Environment.libraryPath]
  | some s => simp [pathGiven, Environment.libraryPath, hempty]

theorem StopsAt.openAny_eq {before after : List String} (h : StopsAt load mode before path after)
    {value : Option String} (absent : pathGiven value = none) :
    openAny load mode value = openAt load mode path := by
  rw [openAny, pathGiven_eq_none_iff.mp absent, h.order]
  exact search_eq_openAt h.unusable h.last _

theorem openAny_of_given (given : pathGiven (some path) ≠ none) :
    openAny load mode (some path) = openAt load mode path := by
  have hfilter : (some path).filter (!·.isEmpty) = some path := by
    simpa [pathGiven_eq_none_iff] using given
  rw [openAny, hfilter]

/-- For every loader and mode: a library that lacks an entry point is never initialised, and the first
one that it lacks is named. A path that the environment gives is the only one that matters. Otherwise the
first standard path decides at which a library can be used, or the last one if there is none, and what
stands behind it does not matter. -/
theorem search_ends_at_first_usable (load : Loader) (mode : Mode) :
    (∀ path, load path = none →
      openAt load mode path = (.error (.library (.notLoaded path)), [])) ∧
    (∀ path image, load path = some image →
      (Unusable load mode path ↔ ∃ s, image.exports s = false) ∧
      ((∃ s, image.exports s = false) → ∃ s, FirstMissing image s ∧
        openAt load mode path = (.error (.library (.missingSymbol s.name)), []))) ∧
    (∀ path load', pathGiven (some path) ≠ none → load' path = load path →
      openAny load' mode (some path) = openAt load mode path) ∧
    (∃ before path after, StopsAt load mode before path after) ∧
    ∀ before path after, StopsAt load mode before path after → ∀ value load',
      pathGiven value = none → (∀ p ∈ before ++ [path], load' p = load p) →
        openAny load' mode value = openAt load mode path := by
  refine ⟨fun path => openAt_of_not_loaded, fun path image loaded => ⟨?_, fun lacks => ?_⟩,
    fun path load' given same => ?_, ?_, fun before path after stops value load' absent same => ?_⟩
  · rw [unusable_iff]
    simp [loaded]
  · obtain ⟨s, hs⟩ := exists_firstMissing lacks
    exact ⟨s, hs, openAt_of_firstMissing loaded hs⟩
  · rw [openAny_of_given given, openAt_congr same]
  · obtain ⟨before, path, after, order, unusable, last⟩ :=
      exists_stop load mode (show searchPaths ≠ [] by decide)
    exact ⟨before, path, after, order, unusable, last⟩
  · rw [(stops.congr same).openAny_eq absent]
    exact openAt_congr (same path (by simp))

def installed : Loader
  | "libdcgm.so.4" => some { obliging with exports := fun s => s != .policySet && s != .policyRegister }
  | "libdcgm.so.3" => some { obliging with codes := fun s => if s = .startEmbedded then -3 else 0 }
  | _ => some obliging

theorem failing_library_ends_search : ∃ f,
    openAny installed .embedded (some "") = openAt installed .embedded "libdcgm.so.3" ∧
    openAt installed .embedded "libdcgm.so.3" =
      (.error f, [⟨.init, []⟩, ⟨.startEmbedded, [.int automatic]⟩, ⟨.shutdown, []⟩]) := by
  have hlacks : ∃ s, ({ obliging with
      exports := fun s => s != .policySet && s != .policyRegister } : Image).exports s = false :=
    ⟨.policySet, rfl⟩
  obtain ⟨-, hincomplete, -, -, hstop⟩ := search_ends_at_first_usable installed .embedded
  have hfirst := (hincomplete "libdcgm.so.4" _ rfl).1.mpr hlacks
  have hsecond : ¬ Unusable installed .embedded "libdcgm.so.3" := by
    rw [(hincomplete "libdcgm.so.3" _ rfl).1]
    rintro ⟨s, hs⟩
    cases hs
  have hstops : StopsAt installed .embedded ["libdcgm.so.4"] "libdcgm.so.3" (searchPaths.drop 2) :=
    ⟨rfl, by simpa using hfirst, fun h => absurd h hsecond⟩
  exact ⟨_, hstop _ _ _ hstops (some "") installed (by decide) fun _ _ => rfl, rfl⟩

end GpuTelemetry.Native
