import GpuTelemetry.Proofs.Opening

/-!
What goes over the line to a native library: the calls that open it, the calls that use its handle, and
the calls that give the handle back.
-/

namespace GpuTelemetry

namespace Native

def Mode.obtaining : Mode → Call
  | .embedded => ⟨.startEmbedded, [.int automatic]⟩
  | .standalone address => ⟨.connect, [.text address]⟩

def Mode.returning : Mode → Symbol
  | .embedded => .stopEmbedded
  | .standalone _ => .disconnect

structure Line where
  mode : Mode
  handle : Nat
  released : Bool
  deriving DecidableEq, Repr

def Connection.line (c : Connection) : Line := ⟨c.mode, c.handle, c.released⟩

namespace Line

def opening (l : Line) : List Call := [⟨.init, []⟩, l.mode.obtaining]

def closing (l : Line) : List Call := [⟨l.mode.returning, [.int l.handle]⟩, ⟨.shutdown, []⟩]

structure Uses (l : Line) (call : Call) : Prop where
  takes : call.symbol.takesHandle = true
  kept : call.symbol ≠ .stopEmbedded ∧ call.symbol ≠ .disconnect
  handle : call.args.head? = some (.int l.handle)

def Asks (call : Call) : Prop := call.symbol = .errorString

theorem opening_symbol {l : Line} {call : Call} (h : call ∈ l.opening) :
    call.symbol = .init ∨ call.symbol = .startEmbedded ∨ call.symbol = .connect := by
  obtain rfl | rfl : call = ⟨.init, []⟩ ∨ call = l.mode.obtaining := by simpa [opening] using h
  · exact .inl rfl
  · cases l.mode with
    | embedded => exact .inr (.inl rfl)
    | standalone address => exact .inr (.inr rfl)

theorem opening_takesHandle {l : Line} {call : Call} (h : call ∈ l.opening) :
    call.symbol.takesHandle = false := by
  obtain h | h | h := opening_symbol h <;> rw [h] <;> rfl

end Line

theorem release_line (c : Connection) : c.release.1.line = { c.line with released := true } ∧
    c.release.2 = c.line.closing := by
  refine ⟨rfl, ?_⟩
  unfold Connection.release Line.closing Connection.line
  cases c.mode <;> rfl

/-- The calls that have gone over a line, if there is one: no handle is used before it is obtained, nor
once it has been given back, and it is given back once. -/
def Ledger : Option Line → List Call → Prop
  | none, calls => calls = []
  | some l, calls => ∃ uses asks,
      calls = l.opening ++ uses ++ (if l.released then l.closing ++ asks else []) ∧
        (∀ call ∈ uses, l.Uses call ∨ Line.Asks call) ∧ ∀ call ∈ asks, Line.Asks call

namespace Ledger

variable {l : Line} {calls more : List Call}

theorem opened (held : l.released = false) : Ledger (some l) l.opening :=
  ⟨[], [], by simp [held], by simp, by simp⟩

theorem goOn (h : Ledger (some l) calls)
    (hmore : ∀ call ∈ more, l.released = false ∧ l.Uses call ∨ Line.Asks call) :
    Ledger (some l) (calls ++ more) := by
  obtain ⟨uses, asks, rfl, huses, hasks⟩ := h
  cases hl : l.released with
  | false =>
    refine ⟨uses ++ more, [], by simp [hl], fun call hcall => ?_, by simp⟩
    obtain hcall | hcall := List.mem_append.mp hcall
    · exact huses call hcall
    · exact (hmore call hcall).imp_left And.right
  | true =>
    refine ⟨uses, asks ++ more, by simp [hl], huses, fun call hcall => ?_⟩
    obtain hcall | hcall := List.mem_append.mp hcall
    · exact hasks call hcall
    · obtain ⟨held, -⟩ | hask := hmore call hcall
      · simp [hl] at held
      · exact hask

theorem close (h : Ledger (some l) calls) (held : l.released = false) :
    Ledger (some { l with released := true }) (calls ++ l.closing) := by
  obtain ⟨uses, asks, rfl, huses, -⟩ := h
  refine ⟨uses, [], by simp [held, Line.opening, Line.closing], fun call hcall => ?_, by simp⟩
  obtain ⟨takes, kept, handle⟩ | hask := huses call hcall
  · exact .inl ⟨takes, kept, handle⟩
  · exact .inr hask

theorem handle_eq (h : Ledger (some l) calls) {call : Call} (hcall : call ∈ calls)
    (takes : call.symbol.takesHandle = true) : call.args.head? = some (.int l.handle) := by
  obtain ⟨uses, asks, rfl, huses, hasks⟩ := h
  have hask (call : Call) (h : Line.Asks call) : call.symbol.takesHandle = false := by
    rw [h]
    rfl
  simp only [List.mem_append] at hcall
  obtain (hcall | hcall) | hcall := hcall
  · simp [Line.opening_takesHandle hcall] at takes
  · obtain use | ask := huses call hcall
    · exact use.handle
    · simp [hask call ask] at takes
  · split at hcall
    · obtain hcall | hcall := List.mem_append.mp hcall
      · obtain rfl | rfl : call = ⟨l.mode.returning, [.int l.handle]⟩ ∨ call = ⟨.shutdown, []⟩ := by
          simpa [Line.closing] using hcall
        · rfl
        · cases takes
      · simp [hask call (hasks call hcall)] at takes
    · cases hcall

theorem not_closing (h : Ledger (some l) calls) (held : l.released = false) {call : Call}
    (hcall : call ∈ calls) :
    call.symbol ≠ .stopEmbedded ∧ call.symbol ≠ .disconnect ∧ call.symbol ≠ .shutdown := by
  obtain ⟨uses, asks, rfl, huses, -⟩ := h
  simp only [held, Bool.false_eq_true, if_false, List.append_nil, List.mem_append] at hcall
  obtain hcall | hcall := hcall
  · obtain h | h | h := Line.opening_symbol hcall <;> rw [h] <;> exact ⟨nofun, nofun, nofun⟩
  · obtain ⟨takes, ⟨stop, disconnect⟩, -⟩ | ask := huses call hcall
    · refine ⟨stop, disconnect, fun hs => ?_⟩
      rw [hs] at takes
      cases takes
    · rw [ask]
      exact ⟨nofun, nofun, nofun⟩

end Ledger

section grants

def Connection.Given (c : Connection) : Prop :=
  match c.mode with
  | .embedded => c.image.codes .startEmbedded = 0 ∧ c.handle = c.image.embeddedHandle
  | .standalone _ => c.image.codes .connect = 0 ∧ c.handle = c.image.remoteHandle

structure Granted (load : Loader) (path : String) (c : Connection) : Prop where
  loaded : load path = some c.image
  initialised : c.image.codes .init = 0
  given : c.Given

inductive Outcome (load : Loader) (mode : Mode) (paths : List String) :
    Except Failure Connection × List Call → Prop
  | refused (f : Failure) (calls : List Call)
      (unhandled : ∀ call ∈ calls, call.symbol.takesHandle = false) :
      Outcome load mode paths (.error f, calls)
  | granted (c : Connection) (path : String) (tried : path ∈ paths) (is : c.mode = mode)
      (held : c.released = false) (granted : Granted load path c) :
      Outcome load mode paths (.ok c, c.line.opening)

variable {load : Loader} {mode : Mode} {path : String}

theorem Outcome.mono {paths more : List String} {x : Except Failure Connection × List Call}
    (h : Outcome load mode paths x) (sub : ∀ path ∈ paths, path ∈ more) : Outcome load mode more x := by
  cases h with
  | refused f calls unhandled => exact .refused f calls unhandled
  | granted c path tried is held granted => exact .granted c path (sub path tried) is held granted

theorem obtain_given (image : Image) (mode : Mode) :
    (∃ f, obtain image mode = .error f) ∨
      ∃ code handle, obtain image mode = .ok (code, handle, mode.obtaining) ∧
        (code = 0 → Connection.Given ⟨image, mode, handle, false⟩) := by
  cases mode with
  | embedded => exact .inr ⟨_, _, rfl, fun hzero => ⟨hzero, rfl⟩⟩
  | standalone address =>
    unfold Native.obtain
    simp only
    split
    · exact .inl ⟨_, rfl⟩
    · exact .inr ⟨_, _, rfl, fun hzero => ⟨hzero, rfl⟩⟩

theorem connect_outcome {image : Image} (loaded : load path = some image) (mode : Mode) :
    Outcome load mode [path] (connect image mode) := by
  unfold connect
  obtain ⟨hinit, hc⟩ | ⟨-, f, -, hc⟩ := check_ofCode (image.codes .init) Symbol.init.name
  · rw [hc]
    obtain ⟨f, ho⟩ | ⟨code, handle, ho, hgiven⟩ := obtain_given image mode
    · simp only [ho]
      refine .refused f _ ?_
      decide
    · simp only [ho]
      obtain ⟨hzero, hc⟩ | ⟨-, f, -, hc⟩ := check_ofCode code Symbol.connect.name
      · rw [hc]
        exact .granted ⟨image, mode, handle, false⟩ path (by simp) rfl rfl
          ⟨loaded, hinit, hgiven hzero⟩
      · rw [hc]
        let tried : Line := ⟨mode, handle, false⟩
        refine .refused f (tried.opening ++ [⟨.shutdown, []⟩]) fun call hcall => ?_
        obtain hcall | hcall := List.mem_append.mp hcall
        · exact Line.opening_takesHandle hcall
        · obtain rfl := List.mem_singleton.mp hcall
          rfl
  · rw [hc]
    refine .refused f _ ?_
    decide

theorem openAt_outcome (load : Loader) (mode : Mode) (path : String) :
    Outcome load mode [path] (openAt load mode path) := by
  unfold openAt
  split
  · exact .refused _ [] (by simp)
  · rename_i image hload
    split
    · exact .refused _ [] (by simp)
    · exact connect_outcome hload mode

theorem search_outcome (load : Loader) (mode : Mode) (fault : LibraryFault) (paths : List String) :
    Outcome load mode paths (search load mode fault paths) := by
  induction paths generalizing fault with
  | nil => exact .refused _ [] (by simp)
  | cons path rest ih =>
    obtain ⟨next, -, -, -, hsearch⟩ | ⟨-, hsearch⟩ := search_cons load mode fault path rest
    · rw [hsearch]
      exact (ih next).mono fun _ h => List.mem_cons_of_mem _ h
    · rw [hsearch]
      exact (openAt_outcome load mode path).mono (by simp)

theorem openAny_outcome (load : Loader) (mode : Mode) (override : Option String) :
    Outcome load mode (candidates override) (openAny load mode override) := by
  unfold openAny candidates
  cases override.filter (!·.isEmpty) with
  | none => exact search_outcome load mode _ searchPaths
  | some path => exact openAt_outcome load mode path

end grants

end Native

namespace Engine

open Native

def line? (e : Engine) : Option Line := e.connection.map (·.line)

structure Speaks (e e' : Engine) (calls : List Call) : Prop where
  line : e'.line? = e.line?
  uses : ∀ call ∈ calls, ∃ l, e.line? = some l ∧ l.Uses call

theorem Speaks.silent (e : Engine) : Speaks e e [] := ⟨rfl, by simp⟩

section calls

variable {α : Type} (e : Engine)

theorem through_speaks {s : Symbol} (takes : s.takesHandle = true)
    (kept : s ≠ .stopEmbedded ∧ s ≠ .disconnect) (args : List Arg) (refuse : Status → α)
    (act : Simulator → α × Simulator) :
    Speaks e (e.through s args refuse act).2.1 (e.through s args refuse act).2.2 := by
  unfold through
  split
  · exact ⟨rfl, by simp⟩
  · rename_i c hc
    have hline : e.line? = some c.line := by simp [line?, hc]
    have huses (call : Call) (hcall : call ∈ [(⟨s, .int c.handle :: args⟩ : Call)]) :
        ∃ l, e.line? = some l ∧ l.Uses call := by
      obtain rfl := List.mem_singleton.mp hcall
      exact ⟨c.line, hline, takes, kept, rfl⟩
    simp only
    split
    · exact ⟨rfl, huses⟩
    · exact ⟨rfl, huses⟩

theorem history_speaks (q : History.Query) : Speaks e (e.history q).2.1 (e.history q).2.2 :=
  e.through_speaks rfl (by decide) _ _ _

theorem snapshot_speaks (entities : List (UInt32 × UInt32)) (fields : List UInt16) (flags : UInt32)
    (slots : Array EntityRecord) : Speaks e (e.snapshot entities fields flags slots).2.1
      (e.snapshot entities fields flags slots).2.2 := by
  unfold snapshot
  split
  · exact .silent e
  · exact e.through_speaks rfl (by decide) _ _ _

theorem setPolicy_speaks (group : GroupId) (p : Policy) :
    Speaks e (e.setPolicy group p).2.1 (e.setPolicy group p).2.2 :=
  e.through_speaks rfl (by decide) _ _ _

theorem register_speaks (group : GroupId) (mask : UInt32) (user : Nat) :
    Speaks e (e.register group mask user).2.1 (e.register group mask user).2.2 :=
  e.through_speaks rfl (by decide) _ _ _

theorem unregister_speaks (group : GroupId) (mask : UInt32) :
    Speaks e (e.unregister group mask).2.1 (e.unregister group mask).2.2 := by
  unfold unregister
  split
  · exact e.through_speaks rfl (by decide) _ _ _
  · exact .silent e
  · exact .silent e

end calls

theorem giveBack_line (e : Engine) :
    (∀ l, e.line? = some l → l.released = true) ∧ e.giveBack = (e, []) ∨
      ∃ l, e.line? = some l ∧ l.released = false ∧
        e.giveBack.1.line? = some { l with released := true } ∧ e.giveBack.2 = l.closing := by
  unfold giveBack
  split
  · rename_i c hc
    cases hreleased : c.released with
    | true =>
      refine .inl ⟨fun l hl => ?_, rfl⟩
      obtain rfl : c.line = l := by simpa [line?, hc] using hl
      exact hreleased
    | false => exact .inr ⟨c.line, by simp [line?, hc], hreleased, rfl, (release_line c).2⟩
  · rename_i hc
    exact .inl ⟨by simp [line?, hc], rfl⟩

end Engine

end GpuTelemetry
