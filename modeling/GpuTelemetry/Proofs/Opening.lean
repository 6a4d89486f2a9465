import GpuTelemetry.Proofs.EngineCalls
import Mathlib.Algebra.GroupWithZero.Nat

namespace GpuTelemetry.Native

def times (s : Symbol) (calls : List Call) : Nat := calls.countP (·.symbol == s)

@[simp] theorem times_nil (s : Symbol) : times s [] = 0 := rfl

@[simp] theorem times_cons (s : Symbol) (call : Call) (calls : List Call) :
    times s (call :: calls) = times s calls + if call.symbol == s then 1 else 0 :=
  List.countP_cons

@[simp] theorem times_append (s : Symbol) (calls more : List Call) :
    times s (calls ++ more) = times s calls + times s more :=
  List.countP_append

section openAt

variable (load : Loader) (mode : Mode) (path : String)

def initialisations : Nat :=
  if (load path).any (·.codes .init == 0) then times .init (openAt load mode path).2 else 0

structure Stray : Prop where
  initialised : ∃ image, load path = some image ∧ (∀ s, image.exports s = true) ∧
    image.codes .init = 0
  address : ∃ address, mode = .standalone address ∧ '\x00' ∈ address.toList

inductive Opened : Except Failure Connection × List Call → Prop
  | unusable (fault : LibraryFault)
      (no : ∀ image, load path = some image → ∃ s, image.exports s = false) :
      Opened (.error (.library fault), [])
  | uninitialised (image : Image) (loaded : load path = some image) (f : Failure)
      (refused : image.codes .init ≠ 0) (other : ∀ fault, f ≠ .library fault) :
      Opened (.error f, [⟨.init, []⟩])
  | stray (image : Image) (loaded : load path = some image) (initialised : image.codes .init = 0)
      (is : Stray load mode path) (text : String) :
      Opened (.error (.invalidArgument text), [⟨.init, []⟩])
  | unconnected (image : Image) (loaded : load path = some image)
      (initialised : image.codes .init = 0) (not : ¬ Stray load mode path) (f : Failure)
      (other : ∀ fault, f ≠ .library fault) (call : Call) (init : call.symbol ≠ .init)
      (shutdown : call.symbol ≠ .shutdown) :
      Opened (.error f, [⟨.init, []⟩, call, ⟨.shutdown, []⟩])
  | connected (image : Image) (loaded : load path = some image)
      (initialised : image.codes .init = 0) (not : ¬ Stray load mode path) (c : Connection)
      (held : c.released = false) (call : Call) (init : call.symbol ≠ .init)
      (shutdown : call.symbol ≠ .shutdown) : Opened (.ok c, [⟨.init, []⟩, call])

end openAt

variable {load : Loader} {mode : Mode} {path : String}

theorem check_ofCode (code : Int32) (call : String) :
    (code = 0 ∧ (Status.ofCode code).check call = .ok ()) ∨
      (code ≠ 0 ∧ ∃ f, (∀ fault, f ≠ .library fault) ∧
        (Status.ofCode code).check call = .error f) := by
  obtain ⟨hzero, hcheck⟩ | ⟨hcode, hcheck⟩ := Status.check_code code call
  · exact .inl ⟨hzero, hcheck⟩
  · refine .inr ⟨hcode, _, fun fault => ?_, hcheck⟩
    unfold Failure.ofStatus
    split <;> simp

theorem obtain_cases (image : Image) (mode : Mode) :
    (∃ address text, mode = .standalone address ∧ '\x00' ∈ address.toList ∧
      obtain image mode = .error (.invalidArgument text)) ∨
    ((∀ address, mode = .standalone address → '\x00' ∉ address.toList) ∧
      ∃ code handle call, call.symbol ≠ .init ∧ call.symbol ≠ .shutdown ∧
        obtain image mode = .ok (code, handle, call)) := by
  cases mode with
  | embedded => exact .inr ⟨by simp, _, _, _, by simp, by simp, rfl⟩
  | standalone address =>
    by_cases h : '\x00' ∈ address.toList
    · exact .inl ⟨address, _, rfl, h, by simp [Native.obtain, h]; rfl⟩
    · refine .inr ⟨by simpa using h, image.codes .connect, image.remoteHandle,
        ⟨.connect, [.text address]⟩, by simp, by simp, by simp [Native.obtain, h]⟩

theorem connect_opened {image : Image} (loaded : load path = some image)
    (complete : ∀ s, image.exports s = true) : Opened load mode path (connect image mode) := by
  unfold connect
  obtain ⟨hinit, hc⟩ | ⟨hinit, f, hf, hc⟩ := check_ofCode (image.codes .init) Symbol.init.name
  · rw [hc]
    obtain ⟨address, text, rfl, hzero, ho⟩ | ⟨hnone, code, handle, call, hi, hs, ho⟩ :=
      obtain_cases image mode
    · simp only [ho]
      exact .stray image loaded hinit ⟨⟨image, loaded, complete, hinit⟩, address, rfl, hzero⟩ text
    · have hnot : ¬ Stray load mode path := by
        rintro ⟨-, address, hmode, hzero⟩
        exact hnone address hmode hzero
      simp only [ho]
      obtain ⟨-, hc'⟩ | ⟨-, f, hf, hc'⟩ := check_ofCode code Symbol.connect.name
      · rw [hc']
        exact .connected image loaded hinit hnot _ rfl call hi hs
      · rw [hc']
        exact .unconnected image loaded hinit hnot f hf call hi hs
  · rw [hc]
    exact .uninitialised image loaded f hinit hf

theorem openAt_opened (load : Loader) (mode : Mode) (path : String) :
    Opened load mode path (openAt load mode path) := by
  unfold openAt
  cases hload : load path with
  | none => exact .unusable _ (by simp [hload])
  | some image =>
    simp only
    cases hfind : Symbol.all.find? fun s => !image.exports s with
    | some s =>
      have hlacks : image.exports s = false := by simpa using List.find?_some hfind
      exact .unusable _ fun other hother => ⟨s, by simpa [← Option.some.inj (hload.symm.trans hother)]⟩
    | none =>
      have complete (s : Symbol) : image.exports s = true := by
        simpa using List.find?_eq_none.mp hfind s s.mem_all
      exact connect_opened hload complete

/-- Whether shutdowns match initialisations: all of them when there is no connection, and all but one
when there is; that one is matched when an engine gives its connection back, which it does once. -/
def Balanced (initialisations shutdowns : Nat) : Except Failure Connection → Prop
  | .error _ => shutdowns = initialisations
  | .ok c => initialisations = shutdowns + 1 ∧ ∀ e : Engine, e.connection = some c →
    times .shutdown e.giveBack.2 = 1 ∧ times .init e.giveBack.2 = 0 ∧ e.giveBack.1.giveBack.2 = []

theorem giveBack_once {c : Connection} (held : c.released = false) {e : Engine}
    (h : e.connection = some c) :
    times .shutdown e.giveBack.2 = 1 ∧ times .init e.giveBack.2 = 0 ∧
      e.giveBack.1.giveBack.2 = [] := by
  have hgiven : e.giveBack = ({ e with connection := some c.release.1 }, c.release.2) := by
    simp [Engine.giveBack, h, held]
  rw [hgiven]
  cases hmode : c.mode <;> simp [Connection.release, Engine.giveBack, hmode]

theorem openAt_balanced_iff (load : Loader) (mode : Mode) (path : String) :
    Balanced (initialisations load mode path) (times .shutdown (openAt load mode path).2)
      (openAt load mode path).1 ↔ ¬ Stray load mode path := by
  unfold initialisations
  have opened := openAt_opened load mode path
  generalize openAt load mode path = found at opened
  cases opened with
  | unusable fault no =>
    have hnot : ¬ Stray load mode path := by
      rintro ⟨⟨image, loaded, complete, -⟩, -⟩
      obtain ⟨s, hs⟩ := no image loaded
      simp [complete s] at hs
    simp [Balanced, hnot]
  | uninitialised image loaded f refused other =>
    have hnot : ¬ Stray load mode path := by
      rintro ⟨⟨image', loaded', -, initialised⟩, -⟩
      obtain rfl := Option.some.inj (loaded.symm.trans loaded')
      exact refused initialised
    simp [Balanced, loaded, refused, hnot]
  | stray image loaded initialised is text => simp [Balanced, loaded, initialised, is]
  | unconnected image loaded initialised not f other call init shutdown =>
    simp [Balanced, loaded, initialised, not, init, shutdown]
  | connected image loaded initialised not c held call init shutdown =>
    have hgiven (e : Engine) (he : e.connection = some c) := giveBack_once held he
    simpa [Balanced, loaded, initialised, not, init, shutdown] using hgiven

section search

variable (load : Loader) (mode : Mode)

def tried : List String → List String
  | [] => []
  | path :: rest =>
    match (openAt load mode path).1 with
    | .error (.library _) => path :: tried rest
    | _ => [path]

def candidates (override : Option String) : List String :=
  match override.filter (!·.isEmpty) with
  | some path => [path]
  | none => searchPaths

end search

theorem openAt_of_unusable {fault : LibraryFault}
    (h : (openAt load mode path).1 = .error (.library fault)) :
    openAt load mode path = (.error (.library fault), []) ∧ ¬ Stray load mode path := by
  have balanced := openAt_balanced_iff load mode path
  have opened := openAt_opened load mode path
  unfold initialisations at balanced
  generalize openAt load mode path = found at opened h balanced
  cases opened with
  | unusable => exact ⟨by simp_all, balanced.mp (by simp [Balanced])⟩
  | uninitialised _ _ _ _ other => exact absurd (Except.error.inj h) (other fault)
  | stray => cases h
  | unconnected _ _ _ _ _ other => exact absurd (Except.error.inj h) (other fault)
  | connected => cases h

theorem search_cons (load : Loader) (mode : Mode) (fault : LibraryFault) (path : String)
    (rest : List String) :
    (∃ next, openAt load mode path = (.error (.library next), []) ∧ ¬ Stray load mode path ∧
      tried load mode (path :: rest) = path :: tried load mode rest ∧
      search load mode fault (path :: rest) = search load mode next rest) ∨
    (tried load mode (path :: rest) = [path] ∧
      search load mode fault (path :: rest) = openAt load mode path) := by
  by_cases hfault : ∃ next, (openAt load mode path).1 = .error (.library next)
  · obtain ⟨next, hnext⟩ := hfault
    obtain ⟨hfound, hnot⟩ := openAt_of_unusable hnext
    exact .inl ⟨next, hfound, hnot, by simp [tried, hfound], by simp [search, hfound]⟩
  · refine .inr ⟨?_, ?_⟩
    · unfold tried
      split
      · rename_i next hnext
        exact absurd ⟨next, hnext⟩ hfault
      · rfl
    · unfold search
      split
      · rename_i next calls hnext
        exact absurd ⟨next, by rw [hnext]⟩ hfault
      · rfl

theorem search_calls (load : Loader) (mode : Mode) (fault : LibraryFault) (paths : List String) :
    (search load mode fault paths).2 =
      (tried load mode paths).flatMap fun path => (openAt load mode path).2 := by
  induction paths generalizing fault with
  | nil => rfl
  | cons path rest ih =>
    obtain ⟨next, hfound, -, htried, hsearch⟩ | ⟨htried, hsearch⟩ :=
      search_cons load mode fault path rest
    · rw [htried, hsearch, List.flatMap_cons, hfound]
      exact ih next
    · simp [htried, hsearch]

theorem search_balanced_iff (load : Loader) (mode : Mode) (fault : LibraryFault)
    (paths : List String) :
    Balanced ((tried load mode paths).map (initialisations load mode)).sum
      (times .shutdown (search load mode fault paths).2) (search load mode fault paths).1 ↔
      ¬ ∃ path ∈ tried load mode paths, Stray load mode path := by
  induction paths generalizing fault with
  | nil => simp [tried, search, Balanced]
  | cons path rest ih =>
    obtain ⟨next, hfound, hnot, htried, hsearch⟩ | ⟨htried, hsearch⟩ :=
      search_cons load mode fault path rest
    · have hnone : initialisations load mode path = 0 := by simp [initialisations, hfound]
      simpa [htried, hsearch, hnone, hnot] using ih next
    · simpa [htried, hsearch] using openAt_balanced_iff load mode path

/-- For every library, mode, path and return code: opening a library leaves no initialisation behind,
and a connection is matched by one shutdown when its engine is dropped, just when it has not met an
address with a zero character after initialising the library; so does a search, by the paths that it
has tried. -/
theorem openings_balanced_iff (load : Loader) (mode : Mode) :
    (∀ path, Balanced (initialisations load mode path) (times .shutdown (openAt load mode path).2)
      (openAt load mode path).1 ↔ ¬ Stray load mode path) ∧
    ∀ override,
      (openAny load mode override).2 =
        (tried load mode (candidates override)).flatMap (fun path => (openAt load mode path).2) ∧
      (Balanced ((tried load mode (candidates override)).map (initialisations load mode)).sum
        (times .shutdown (openAny load mode override).2) (openAny load mode override).1 ↔
        ¬ ∃ path ∈ tried load mode (candidates override), Stray load mode path) := by
  refine ⟨openAt_balanced_iff load mode, fun override => ?_⟩
  unfold openAny candidates
  cases override.filter (!·.isEmpty) with
  | none => exact ⟨search_calls load mode _ searchPaths, search_balanced_iff load mode _ searchPaths⟩
  | some path =>
    have htried : tried load mode [path] = [path] := by
      unfold tried
      split <;> rfl
    rw [htried]
    exact ⟨by simp, by simpa using openAt_balanced_iff load mode path⟩

def obliging : Image where
  exports _ := true
  codes _ := 0
  embeddedHandle := 41
  remoteHandle := 42
  strings _ := none

/-- The address is refused, one initialisation has succeeded, and no shutdown has been called. -/
theorem zero_in_address_leaves_initialised : ∃ load mode path f,
    mode = .standalone "a\x00b" ∧ (openAt load mode path).1 = .error f ∧
    initialisations load mode path = 1 ∧ times .shutdown (openAt load mode path).2 = 0 ∧
    ¬ Balanced (initialisations load mode path) (times .shutdown (openAt load mode path).2)
      (openAt load mode path).1 := by
  let load : Loader := fun _ => some obliging
  let mode : Mode := .standalone "a\x00b"
  have hone : initialisations load mode "libdcgm.so.4" = 1 := by decide +kernel
  have hnone : times .shutdown (openAt load mode "libdcgm.so.4").2 = 0 := by decide +kernel
  refine ⟨load, mode, "libdcgm.so.4", _, rfl, rfl, hone, hnone, ?_⟩
  rw [hone, hnone]
  exact Nat.zero_ne_one

end GpuTelemetry.Native
