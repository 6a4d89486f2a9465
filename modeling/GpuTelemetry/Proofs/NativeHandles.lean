import GpuTelemetry.Proofs.Connections
import GpuTelemetry.Proofs.Journal
import GpuTelemetry.Proofs.References

namespace GpuTelemetry

open Native (Line Ledger)

def Event.nativeOf (engine : Option Nat) : Event → Option Native.Call
  | .native k call => if k = engine then some call else none
  | _ => none

namespace Monitor

variable {m n m' : Monitor} {a : Action} {as : List Action}

def line? (m : Monitor) (e : Nat) : Option Line := (m.engines e).line?

def natives (m : Monitor) (engine : Option Nat) : List Native.Call := m.said (Event.nativeOf engine)

theorem mem_natives {engine : Option Nat} {call : Native.Call} :
    call ∈ m.natives engine ↔ .native engine call ∈ m.journal := by
  unfold natives said
  rw [List.mem_reverse, List.mem_filterMap]
  constructor
  · rintro ⟨event, hevent, hread⟩
    cases event with
    | native k other =>
      simp only [Event.nativeOf] at hread
      split at hread
      · rename_i hk
        cases hread
        exact hk ▸ hevent
      · cases hread
    | _ => cases hread
  · intro h
    exact ⟨_, h, by simp [Event.nativeOf]⟩

theorem natives_noteNative (m : Monitor) (k engine : Option Nat) (calls : List Native.Call) :
    (m.noteNative k calls).natives engine =
      m.natives engine ++ if k = engine then calls else [] := by
  have hread : (calls.map (Event.native k)).filterMap (Event.nativeOf engine) =
      if k = engine then calls else [] := by
    rw [List.filterMap_map]
    split
    · rename_i hk
      simp [Event.nativeOf, hk]
    · rename_i hk
      simp [Function.comp_def, Event.nativeOf, hk]
  simp only [natives, said, noteNative, List.filterMap_append, List.reverse_append,
    ← List.filterMap_reverse, List.reverse_reverse, hread]

theorem natives_call {α : Type} (m : Monitor) (e : Nat) (what : EngineCall)
    (answer : α → Option Status) (act : Engine → α × Engine × List Native.Call) :
    (m.call e what answer act).2.natives (some e) =
      m.natives (some e) ++ (act (m.engines e)).2.2 := by
  refine (natives_noteNative _ _ _ _).trans ?_
  rw [if_pos rfl]
  rfl

structure Talks (m n : Monitor) : Prop where
  engineCount : n.engineCount = m.engineCount
  lines : ∀ e, n.line? e = m.line? e
  made : ∀ e, ∃ calls, n.natives (some e) = m.natives (some e) ++ calls ∧ ∀ call ∈ calls,
    ∃ l, m.line? e = some l ∧ (l.released = false ∧ l.Uses call ∨ Line.Asks call)
  lost : ∃ calls, n.natives none = m.natives none ++ calls ∧
    ∀ call ∈ calls, call.symbol.takesHandle = false

theorem Talks.of_natives (engineCount : n.engineCount = m.engineCount)
    (lines : ∀ e, n.line? e = m.line? e) (natives : ∀ engine, n.natives engine = m.natives engine) :
    Talks m n :=
  ⟨engineCount, lines, fun e => ⟨[], by simp [natives], by simp⟩, [], by simp [natives], by simp⟩

theorem Talks.of_eq (engineCount : n.engineCount = m.engineCount) (engines : n.engines = m.engines)
    (journal : n.journal = m.journal) : Talks m n :=
  .of_natives engineCount (fun e => by rw [line?, engines, line?])
    fun engine => by rw [natives, said, journal, natives, said]

theorem Talks.refl (m : Monitor) : Talks m m := .of_eq rfl rfl rfl

theorem Talks.trans (h : Talks m n) (h' : Talks n m') : Talks m m' := by
  refine ⟨h'.engineCount.trans h.engineCount, fun e => (h'.lines e).trans (h.lines e), fun e => ?_, ?_⟩
  · obtain ⟨calls, hcalls, huses⟩ := h.made e
    obtain ⟨more, hmore, huses'⟩ := h'.made e
    refine ⟨calls ++ more, by rw [hmore, hcalls, List.append_assoc], fun call hcall => ?_⟩
    obtain hcall | hcall := List.mem_append.mp hcall
    · exact huses call hcall
    · rw [← h.lines e]
      exact huses' call hcall
  · obtain ⟨calls, hcalls, hnone⟩ := h.lost
    obtain ⟨more, hmore, hnone'⟩ := h'.lost
    refine ⟨calls ++ more, by rw [hmore, hcalls, List.append_assoc], fun call hcall => ?_⟩
    exact (List.mem_append.mp hcall).elim (hnone call) (hnone' call)

theorem Talks.note (h : Talks m n) {event : Event} (silent : ∀ k, event.nativeOf k = none) :
    Talks m (n.note event) := by
  refine h.trans (.of_natives rfl (fun _ => rfl) fun k => ?_)
  exact (said_note n event).trans (by rw [silent k]; exact List.append_nil _)

theorem talks_adjust (m : Monitor) (e : Nat) (f : Engine → Engine)
    (line : (f (m.engines e)).line? = (m.engines e).line?) : Talks m (m.adjust e f) := by
  refine .of_natives rfl (fun k => ?_) fun _ => rfl
  by_cases hk : k = e
  · subst hk
    simpa [line?, adjust] using line
  · simp [line?, adjust, hk]

theorem talks_noteNative (m : Monitor) (e : Nat) (calls : List Native.Call)
    (uses : ∀ call ∈ calls,
      ∃ l, m.line? e = some l ∧ (l.released = false ∧ l.Uses call ∨ Line.Asks call)) :
    Talks m (m.noteNative (some e) calls) := by
  refine ⟨rfl, fun _ => rfl, fun k => ?_, [], by simp [natives_noteNative], by simp⟩
  rw [natives_noteNative]
  split
  · rename_i hk
    cases hk
    exact ⟨calls, rfl, uses⟩
  · exact ⟨[], rfl, by simp⟩

def Holds (m : Monitor) (e : Nat) : Prop := ∀ l, m.line? e = some l → l.released = false

theorem Talks.holds (h : Talks m n) {e : Nat} (holds : m.Holds e) : n.Holds e := fun l hl =>
  holds l (h.lines e ▸ hl)

theorem talks_call {α : Type} (m : Monitor) (e : Nat) (what : EngineCall)
    (answer : α → Option Status) (act : Engine → α × Engine × List Native.Call) (holds : m.Holds e)
    (speaks : (m.engines e).Speaks (act (m.engines e)).2.1 (act (m.engines e)).2.2) :
    Talks m (m.call e what answer act).2 := by
  let told := m.note (.called e what (answer (act (m.engines e)).1))
  have htold : Talks m told := (Talks.refl m).note fun _ => rfl
  have hdone : Talks told (told.adjust e fun _ => (act (m.engines e)).2.1) :=
    talks_adjust told e _ speaks.line
  refine (htold.trans hdone).trans (talks_noteNative _ e _ fun call hcall => ?_)
  obtain ⟨l, hl, huses⟩ := speaks.uses call hcall
  have hline : m.line? e = some l := hl
  rw [(htold.trans hdone).lines e]
  exact ⟨l, hline, .inl ⟨holds l hline, huses⟩⟩

theorem reap_cases (m : Monitor) (k : Nat) :
    ((m.isReferenced k = true ∨ ∀ l, m.line? k = some l → l.released = true) ∧
      Talks m (m.reap k)) ∨
    ∃ l, m.isReferenced k = false ∧ m.line? k = some l ∧ l.released = false ∧
      (m.reap k).line? = assign m.line? k (some { l with released := true }) ∧
      ∀ engine, (m.reap k).natives engine =
        m.natives engine ++ if some k = engine then l.closing else [] := by
  have hkept (same : (if m.isReferenced k then (m.engines k, []) else (m.engines k).giveBack) =
      (m.engines k, [])) : Talks m (m.reap k) := by
    simp only [reap, same]
    exact (talks_adjust m k (fun _ => m.engines k) rfl).trans (talks_noteNative _ k [] (by simp))
  cases href : m.isReferenced k with
  | true => exact .inl ⟨.inl rfl, hkept (by simp [href])⟩
  | false =>
    obtain ⟨hreleased, hnone⟩ | ⟨l, hl, held, hline, hcalls⟩ := (m.engines k).giveBack_line
    · exact .inl ⟨.inr hreleased, hkept (by simp [href, hnone])⟩
    · refine .inr ⟨l, rfl, hl, held, ?_, fun engine => ?_⟩
      · funext e
        by_cases he : e = k
        · subst he
          simpa [line?, reap, adjust, noteNative, href] using hline
        · simp [line?, reap, adjust, noteNative, he]
      · simp only [reap, href, Bool.false_eq_true, if_false, natives_noteNative, hcalls]
        rfl

inductive Opens : Action → Option Native.Connection → List Native.Call → Prop
  | simulated : Opens .addEngine none []
  | pathAt (load : Native.Loader) (mode : Native.Mode) (path : String) (c : Native.Connection)
      (is : c.mode = mode) (held : c.released = false) (granted : Native.Granted load path c) :
      Opens (.openAt load mode path) (some c) c.line.opening
  | pathAny (load : Native.Loader) (mode : Native.Mode) (override : Option String) (path : String)
      (tried : path ∈ Native.candidates override) (c : Native.Connection) (is : c.mode = mode)
      (held : c.released = false) (granted : Native.Granted load path c) :
      Opens (.openAny load mode override) (some c) c.line.opening

theorem Opens.ledger {connection : Option Native.Connection} {calls : List Native.Call}
    (h : Opens a connection calls) : Ledger (connection.map (·.line)) calls := by
  cases h with
  | simulated => rfl
  | pathAt load mode path c is held granted => exact .opened held
  | pathAny load mode override path tried c is held granted => exact .opened held

theorem Opens.held {connection : Option Native.Connection} {calls : List Native.Call}
    (h : Opens a connection calls) : ∀ l, connection.map (·.line) = some l → l.released = false := by
  rintro l hl
  cases h with
  | simulated => cases hl
  | pathAt load mode path c is held granted =>
    cases hl
    exact held
  | pathAny load mode override path tried c is held granted =>
    cases hl
    exact held

inductive Handling (m : Monitor) (a : Action) : Monitor → Prop
  | kept {m' : Monitor} (talks : Talks m m') (same : SameReferences m m') : Handling m a m'
  | dropped (n : Monitor) (k : Nat) (talks : Talks m n) (before : m.isReferenced k = true)
      (others : ∀ e, e ≠ k → n.isReferenced e = m.isReferenced e) : Handling m a (n.reap k)
  | opened (connection : Option Native.Connection) (calls : List Native.Call)
      (opens : Opens a connection calls) :
      Handling m a ((m.addEngine { connection }).noteNative (some m.engineCount) calls)

structure Handled (m : Monitor) : Prop where
  fresh : ∀ e, m.engineCount ≤ e → m.line? e = none
  synced : ∀ e l, m.line? e = some l → l.released = !m.isReferenced e
  ledger : ∀ e, Ledger (m.line? e) (m.natives (some e))
  lost : ∀ call ∈ m.natives none, call.symbol.takesHandle = false

theorem Handled.holds (h : m.Handled) {e : Nat} (href : m.isReferenced e = true) : m.Holds e := by
  intro l hl
  rw [h.synced e l hl, href]
  rfl

theorem Handled.ledger_of_mem (h : m.Handled) {e : Nat} {call : Native.Call}
    (hcall : call ∈ m.natives (some e)) :
    ∃ l, m.line? e = some l ∧ Ledger (some l) (m.natives (some e)) := by
  have ledger := h.ledger e
  cases hl : m.line? e with
  | none =>
    rw [hl] at ledger
    rw [show m.natives (some e) = [] from ledger] at hcall
    cases hcall
  | some l =>
    rw [hl] at ledger
    exact ⟨l, rfl, ledger⟩

theorem Talks.ledger (h : Talks m n) {e : Nat} (ledger : Ledger (m.line? e) (m.natives (some e))) :
    Ledger (n.line? e) (n.natives (some e)) := by
  obtain ⟨calls, hcalls, huses⟩ := h.made e
  rw [h.lines e, hcalls]
  cases hl : m.line? e with
  | none =>
    rw [hl] at ledger
    have hnone : calls = [] := by
      refine List.eq_nil_iff_forall_not_mem.mpr fun call hcall => ?_
      obtain ⟨l, hl', -⟩ := huses call hcall
      simp [hl] at hl'
    rw [hnone, List.append_nil]
    exact ledger
  | some l =>
    rw [hl] at ledger
    refine ledger.goOn fun call hcall => ?_
    obtain ⟨l', hl', huse⟩ := huses call hcall
    obtain rfl := Option.some.inj (hl.symm.trans hl')
    exact huse

theorem Talks.unhandled (h : Talks m n)
    (lost : ∀ call ∈ m.natives none, call.symbol.takesHandle = false) :
    ∀ call ∈ n.natives none, call.symbol.takesHandle = false := by
  obtain ⟨calls, hcalls, hnone⟩ := h.lost
  intro call hcall
  rw [hcalls] at hcall
  exact (List.mem_append.mp hcall).elim (lost call) (hnone call)

theorem Handled.kept (h : m.Handled) (talks : Talks m m')
    (same : ∀ e l, m.line? e = some l → m'.isReferenced e = m.isReferenced e) : m'.Handled := by
  refine ⟨fun e he => ?_, fun e l hl => ?_, fun e => talks.ledger (h.ledger e),
    talks.unhandled h.lost⟩
  · rw [talks.lines e]
    exact h.fresh e (talks.engineCount ▸ he)
  · have hline : m.line? e = some l := talks.lines e ▸ hl
    rw [same e l hline]
    exact h.synced e l hline

theorem Handled.returned (h : m.Handled) (talks : Talks m n) {k : Nat} {l : Line}
    (hl : n.line? k = some l) (held : l.released = false) (count : m'.engineCount = n.engineCount)
    (lines : m'.line? = assign n.line? k (some { l with released := true }))
    (natives : ∀ engine, m'.natives engine =
      n.natives engine ++ if some k = engine then l.closing else [])
    (left : m'.isReferenced k = false)
    (others : ∀ e, e ≠ k → m'.isReferenced e = m.isReferenced e) : m'.Handled := by
  refine ⟨fun e he => ?_, fun e l' hl' => ?_, fun e => ?_, ?_⟩
  · have hfresh : m.line? e = none := h.fresh e ((count.trans talks.engineCount) ▸ he)
    have hne : e ≠ k := by
      rintro rfl
      rw [talks.lines e, hfresh] at hl
      cases hl
    rw [lines, assign_of_ne _ _ hne, talks.lines e]
    exact hfresh
  · rw [lines] at hl'
    by_cases he : e = k
    · subst he
      rw [assign_self] at hl'
      cases hl'
      rw [left]
      rfl
    · rw [assign_of_ne _ _ he, talks.lines e] at hl'
      rw [others e he]
      exact h.synced e l' hl'
  · have ledger := talks.ledger (h.ledger e)
    rw [lines, natives]
    by_cases he : e = k
    · subst he
      rw [hl] at ledger
      rw [assign_self, if_pos rfl]
      exact ledger.close held
    · rw [assign_of_ne _ _ he, if_neg (by simpa using Ne.symm he), List.append_nil]
      exact ledger
  · rw [natives, if_neg (by simp), List.append_nil]
    exact talks.unhandled h.lost

theorem Handled.dropped (h : m.Handled) {k : Nat} (talks : Talks m n)
    (before : m.isReferenced k = true)
    (others : ∀ e, e ≠ k → n.isReferenced e = m.isReferenced e) : (n.reap k).Handled := by
  have held := talks.holds (h.holds before)
  have hsame := sameReferences_reap n k
  have hothers (e : Nat) (he : e ≠ k) : (n.reap k).isReferenced e = m.isReferenced e :=
    (hsame e).trans (others e he)
  -- the reference that is gone may have been the last one, or not
  obtain ⟨hkeeps, hreap⟩ | ⟨l, hfree, hl, hlheld, hlines, hnatives⟩ := reap_cases n k
  · refine h.kept (talks.trans hreap) fun e l hl => ?_
    by_cases he : e = k
    · subst he
      obtain href | hreleased := hkeeps
      · exact (hsame e).trans (href.trans before.symm)
      · have hline : n.line? e = some l := (talks.lines e).trans hl
        exact absurd (held l hline) (by simp [hreleased l hline])
    · exact hothers e he
  · exact h.returned talks hl hlheld rfl hlines hnatives ((hsame k).trans hfree) hothers

theorem line?_opened (m : Monitor) (connection : Option Native.Connection) (calls : List Native.Call) :
    ((m.addEngine { connection }).noteNative (some m.engineCount) calls).line? =
      assign m.line? m.engineCount (connection.map (·.line)) := by
  funext e
  by_cases he : e = m.engineCount
  · subst he
    simp [line?, addEngine, noteNative, Engine.line?]
  · simp [line?, addEngine, noteNative, he]

theorem Handled.opened (h : m.Handled) {connection : Option Native.Connection}
    {calls : List Native.Call} (opens : Opens a connection calls) :
    ((m.addEngine { connection }).noteNative (some m.engineCount) calls).Handled := by
  let n := (m.addEngine { connection }).noteNative (some m.engineCount) calls
  have hlines : n.line? = assign m.line? m.engineCount (connection.map (·.line)) :=
    line?_opened m connection calls
  have hnatives (engine : Option Nat) : n.natives engine =
      m.natives engine ++ if some m.engineCount = engine then calls else [] :=
    natives_noteNative (m.addEngine { connection }) _ engine calls
  have hnew : n.isReferenced m.engineCount = true :=
    isReferenced_iff.mpr (.inl (by simp [n, addEngine, noteNative]))
  have hold (e : Nat) (he : e ≠ m.engineCount) : n.isReferenced e = m.isReferenced e := by
    simp [n, isReferenced, addEngine, noteNative, he]
  refine ⟨fun e he => ?_, fun e l hl => ?_, fun e => ?_, ?_⟩
  · have hlt : m.engineCount + 1 ≤ e := he
    rw [hlines, assign_of_ne _ _ (by omega)]
    exact h.fresh e (by omega)
  · rw [hlines] at hl
    by_cases he : e = m.engineCount
    · subst he
      rw [assign_self] at hl
      rw [opens.held l hl, hnew]
      rfl
    · rw [assign_of_ne _ _ he] at hl
      rw [hold e he]
      exact h.synced e l hl
  · rw [hlines, hnatives]
    by_cases he : e = m.engineCount
    · subst he
      have hempty : m.natives (some m.engineCount) = [] := by
        have ledger := h.ledger m.engineCount
        rw [h.fresh _ (Nat.le_refl _)] at ledger
        exact ledger
      rw [assign_self, if_pos rfl, hempty, List.nil_append]
      exact opens.ledger
    · rw [assign_of_ne _ _ he, if_neg (by simpa using Ne.symm he), List.append_nil]
      exact h.ledger e
  · rw [hnatives, if_neg (by simp), List.append_nil]
    exact h.lost

theorem Handled.act (h : m.Handled) (handling : Handling m a m') : m'.Handled := by
  cases handling with
  | kept talks same => exact h.kept talks fun e _ _ => same e
  | dropped n k talks before others => exact h.dropped talks before others
  | opened connection calls opens => exact h.opened opens

section actions

theorem adopt_handling {load : Native.Loader} {mode : Native.Mode} {paths : List String}
    {x : Except Failure Native.Connection × List Native.Call} (h : Native.Outcome load mode paths x)
    (opens : ∀ path ∈ paths, ∀ c : Native.Connection, c.mode = mode → c.released = false →
      Native.Granted load path c → Opens a (some c) c.line.opening) : Handling m a (m.adopt x).2 := by
  cases h with
  | refused f calls unhandled =>
    refine .kept ⟨rfl, fun _ => rfl, fun e => ⟨[], ?_, by simp⟩, calls, ?_, unhandled⟩ fun _ => rfl
    · exact (natives_noteNative m none (some e) calls).trans (by simp)
    · exact (natives_noteNative m none none calls).trans (by simp)
  | granted c path tried is held granted =>
    exact .opened (some c) _ (opens path tried c is held granted)

theorem errorString_talks (m : Monitor) (e : Nat) (code : Int32) :
    Talks m (m.errorString e code).2 := by
  unfold errorString
  split
  · rename_i c hc
    refine talks_noteNative m e _ fun call hcall => ⟨c.line, by simp [line?, Engine.line?, hc], .inr ?_⟩
    obtain rfl := List.mem_singleton.mp hcall
    rfl
  · exact .refl m

theorem replaceActive_handling (active : Option Nat)
    (kept : ∀ e, active = some e → m.isReferenced e = true) :
    Handling m a ({ m with active }.reapPrevious m.active) := by
  have hset : Talks m { m with active } := .of_eq rfl rfl rfl
  have hsame (e : Nat) (he : m.active ≠ some e) :
      ({ m with active } : Monitor).isReferenced e = m.isReferenced e := by
    rw [Bool.eq_iff_iff]
    by_cases hnew : active = some e
    · exact iff_of_true (isReferenced_iff.mpr (.inr (.inl hnew))) (kept e hnew)
    · rw [isReferenced_iff, isReferenced_iff]
      simp only [hnew, he, false_or]
      exact Iff.rfl
  cases hp : m.active with
  | none => exact .kept hset fun e => hsame e (by simp [hp])
  | some p =>
    exact .dropped _ p hset (isReferenced_iff.mpr (.inr (.inl hp))) fun e he =>
      hsame e (by simpa [hp] using Ne.symm he)

theorem disown_handling {e : Nat} (owned : (m.engines e).owned = true) :
    Handling m a (m.disown e) := by
  refine .dropped (m.adjust e fun g => { g with owned := false }) e (talks_adjust m e _ rfl)
    (isReferenced_iff.mpr (.inl owned)) fun k hk => isReferenced_congr ?_ rfl rfl rfl
  simp [adjust, hk]

theorem ask_talks (m : Monitor) (ticket : Nat) (w : Wish) : Talks m (m.ask ticket w) := by
  unfold ask
  split
  · exact (Talks.refl m).note fun _ => rfl
  · exact .of_eq rfl rfl rfl

theorem receive_talks (m : Monitor) (id : Nat) : Talks m (m.receive id).2 := by
  have hupdate (f : Subscription → Subscription) : Talks m (m.update id f) := .of_eq rfl rfl rfl
  have hnone (n : Monitor) (s : Subscription) : Talks n (n.receiveNone s).2 := by
    unfold receiveNone
    split
    · exact (Talks.refl n).note fun _ => rfl
    · exact .refl n
  unfold receive
  split
  · exact .refl m
  · split
    · exact (hupdate _).trans (hnone _ _)
    · split
      · exact (hupdate _).note fun _ => rfl
      · exact hnone m _

theorem collect_talks (h : m.Handled) (engine : Option Nat) (q : History.Query)
    (script : Option History.Reply) : Talks m (m.collect engine q script).2 := by
  unfold collect
  split
  · exact .refl m
  · rename_i e he
    have hasked : Talks m (m.askHistory e q script).2 := by
      refine talks_call m e (.history q.group q.fieldGroup q.since) _ _
        (h.holds (resolve_referenced he)) ?_
      cases script with
      | none => exact (m.engines e).history_speaks q
      | some reply => exact .silent _
    exact hasked

theorem snapshot_talks (h : m.Handled) (engine : Option Nat) (entities : List Entity)
    (fields : List UInt16) (flags : UInt32) (script : Option (Array EntityRecord → Snapshot.Answer)) :
    Talks m (m.snapshot engine entities fields flags script).2 := by
  unfold snapshot
  split
  · exact .refl m
  · rename_i e he
    split
    · exact .refl m
    · rename_i k _
      let lent : Monitor := { m with reserve := (m.reserve.lend k).2 }
      have hlent : Talks m lent := .of_eq rfl rfl rfl
      have hasked : Talks lent (lent.askSnapshot e (entities.map Entity.codes) fields flags
          (m.reserve.lend k).1.slots script).2 := by
        refine talks_call lent e (.snapshot (entities.map Entity.codes) fields flags
          (m.reserve.lend k).1.slots.size) _ _ (hlent.holds (h.holds (resolve_referenced he))) ?_
        cases script with
        | none => exact (m.engines e).snapshot_speaks _ _ _ _
        | some answer => exact .silent _
      exact (hlent.trans hasked).trans (.of_eq rfl rfl rfl)

theorem callBack?_talks {i : Nat} (h : m.callBack? i = some m') : Talks m m' := by
  obtain ⟨f, target, rest, n, -, -, hd, rfl⟩ := callBack?_cases h
  have hn : Talks m n := by
    cases hd with
    | recorded => exact (Talks.refl m).note fun _ => rfl
    | ignored => exact .refl m
    | accepted s v known addressed attached decoded watched room =>
      have hput : Talks m (m.update s.id fun s =>
          { s with slots := assign s.slots v.condition (s.slots v.condition ++ [v]) }) :=
        .of_eq rfl rfl rfl
      exact hput.note fun _ => rfl
  have hnoted : Talks m (n.note (.callback f.engine target)) := hn.note fun _ => rfl
  exact hnoted.trans (.of_eq rfl rfl rfl)

theorem setting_line (s : Setting) (e : Engine) : (s.apply e).line? = e.line? := by
  cases s with
  | codes f =>
    simp only [Setting.apply, Engine.line?, Option.map_map]
    rfl
  | _ => rfl

theorem release?_handling {id : Nat} (nm : m.Numbered) (h : m.release? id = some m') :
    Handling m a m' := by
  obtain ⟨s, hs, rfl, waits, -, mask, -, ⟨-, rfl⟩ | ⟨-, rfl⟩⟩ := release?_cases h
  · have uses : s.phase.usesEngine = true := by rw [waits]; rfl
    refine .dropped ((m.afterRelease s.key s.conditions).update s.id fun s =>
      { s with phase := .released }) s.key.engine (.of_eq rfl rfl rfl) (isReferenced_of_use hs uses)
      fun e he => isReferenced_congr rfl rfl rfl ?_
    exact nm.inUse_update hs (.inl he)
  · have same : (Phase.calling mask).usesEngine = s.phase.usesEngine := by rw [waits]; rfl
    refine .kept (.of_eq rfl rfl rfl) fun e => isReferenced_congr rfl rfl rfl ?_
    exact nm.inUse_update hs (.inr same)

theorem unregister?_handling {id : Nat} (h : m.Handled) (nm : m.Numbered)
    (hm : m.unregister? id = some m') : Handling m a m' := by
  obtain ⟨s, hs, rfl, mask, calls, -, rfl⟩ := unregister?_cases hm
  have uses : s.phase.usesEngine = true := by rw [calls]; rfl
  have href := isReferenced_of_use hs uses
  have hasked : Talks m (m.afterUnregister s.key mask) :=
    talks_call m s.key.engine (.unregister s.key.group mask) _ _ (h.holds href)
      ((m.engines s.key.engine).unregister_speaks s.key.group mask)
  have howners : SameOwners m (m.afterUnregister s.key mask) :=
    sameOwners_call m _ _ _ _ (Engine.unregister_owned _ _ _)
  refine .dropped ((m.afterUnregister s.key mask).update s.id fun s => { s with phase := .released })
    s.key.engine (hasked.trans (.of_eq rfl rfl rfl)) href fun e he =>
    isReferenced_congr (howners e) rfl rfl ?_
  exact nm.inUse_update hs (.inl he)

theorem any_eraseIdx {α : Type} {l : List α} {i : Nat} {x : α} {p : α → Bool} (h : l[i]? = some x)
    (hx : p x = false) : (l.eraseIdx i).any p = l.any p := by
  induction l generalizing i with
  | nil => rfl
  | cons y l ih =>
    cases i with
    | zero =>
      obtain rfl : y = x := by simpa using h
      simp [hx]
    | succ i => simp [List.eraseIdx_cons_succ, ih (by simpa using h)]

theorem enter?_handling {i : Nat} (h : m.Handled) (entered : m.enter? i = some m') :
    Handling m a m' := by
  obtain ⟨r, waits, -, hm⟩ := enter?_cases entered
  let n : Monitor := { m with requests := m.requests.eraseIdx i }
  have href := isReferenced_of_request (List.mem_of_getElem? waits)
  have htaken : Talks m n := .of_eq rfl rfl rfl
  have holds : n.Holds r.key.engine := htaken.holds (h.holds href)
  have hpolicy : Talks n (n.askPolicy r).2 :=
    talks_call n r.key.engine (.setPolicy r.key.group (n.policyFor r)) _ _ holds
      (Engine.setPolicy_speaks _ _ _)
  have hregister : Talks (n.askPolicy r).2 ((n.askPolicy r).2.askRegistration r).2 := by
    let o := (n.askPolicy r).2
    let entered : Monitor := { o with lastId := o.lastId + 1, registry := (o.lastId + 1) :: o.registry }
    have hentered : Talks o entered := .of_eq rfl rfl rfl
    exact hentered.trans (talks_call entered r.key.engine
      (.register r.key.group (Condition.maskOf r.conditions) (o.lastId + 1)) _ _
      (hentered.holds (hpolicy.holds holds)) (Engine.register_speaks _ _ _ _))
  have hwaiting (e : Nat) (he : e ≠ r.key.engine) :
      (m.requests.eraseIdx i).any (·.key.engine == e) = m.requests.any (·.key.engine == e) :=
    any_eraseIdx waits (by simpa using Ne.symm he)
  have howned := sameOwners_askPolicy n r
  have hregistered := howned.trans (sameOwners_askRegistration (n.askPolicy r).2 r)
  have hend : Enrolled n r m' := hm ▸ enrol_cases n r
  cases hend with
  | policyRefused refused =>
    let f := Failure.ofStatus Native.Symbol.policySet.name (n.askPolicy r).1
    refine .dropped ((n.askPolicy r).2.note (.subscribed r.ticket (.error f))) r.key.engine
      ((htaken.trans hpolicy).note fun _ => rfl) href fun e he => ?_
    exact isReferenced_congr (howned e) rfl (hwaiting e he) rfl
  | registrationRefused o ho accepted refused =>
    subst ho
    let left : Monitor := { ((n.askPolicy r).2.askRegistration r).2 with registry := m.registry }
    let f := Failure.ofStatus Native.Symbol.policyRegister.name
      ((n.askPolicy r).2.askRegistration r).1
    have hleft : Talks m left := ((htaken.trans hpolicy).trans hregister).trans (.of_eq rfl rfl rfl)
    refine .dropped (left.note (.subscribed r.ticket (.error f))) r.key.engine
      (hleft.note fun _ => rfl) href fun e he => ?_
    exact isReferenced_congr (hregistered e) rfl (hwaiting e he) rfl
  | joined o ho accepted registered =>
    subst ho
    let asked := ((n.askPolicy r).2.askRegistration r).2
    have hasked : Talks m (asked.note (.subscribed r.ticket (.ok asked.lastId))) :=
      ((htaken.trans hpolicy).trans hregister).note fun _ => rfl
    refine .kept (hasked.trans (.of_eq rfl rfl rfl)) fun e => ?_
    by_cases he : e = r.key.engine
    · subst he
      have hnew : r.subscription asked.lastId (asked.scopeOf r.token) ∈ (asked.join r).subscriptions :=
        List.mem_append_right _ (List.mem_singleton_self _)
      exact (isReferenced_of_use hnew rfl).trans href.symm
    · exact isReferenced_congr (hregistered e) rfl (hwaiting e he) (inUse_joined rfl he)

theorem move?_talks {mv : Move} (enters : ∀ i, mv ≠ .enter i) (releases : ∀ id, mv ≠ .release id)
    (unregisters : ∀ id, mv ≠ .unregister id) (h : m.move? mv = some m') : Talks m m' := by
  cases mv with
  | enter i => exact absurd rfl (enters i)
  | release id => exact absurd rfl (releases id)
  | unregister id => exact absurd rfl (unregisters id)
  | start =>
    obtain ⟨s, -, -, -, rfl⟩ := start?_cases h
    exact .of_eq rfl rfl rfl
  | take =>
    obtain ⟨s, -, -, v, rest, -, -, -, rfl⟩ := take?_cases h
    exact .of_eq rfl rfl rfl
  | send =>
    obtain ⟨s, -, -, v, -, -, -, rfl⟩ := send?_cases h
    exact .of_eq rfl rfl rfl
  | leave =>
    obtain ⟨s, -, -, -, -, rfl⟩ := leave?_cases h
    exact .of_eq rfl rfl rfl
  | detach =>
    obtain ⟨s, -, -, -, rfl⟩ := detach?_cases h
    exact .of_eq rfl rfl rfl
  | close =>
    obtain ⟨s, -, -, -, rfl⟩ := close?_cases h
    exact .of_eq rfl rfl rfl
  | finish =>
    obtain ⟨s, -, -, -, rfl⟩ := finish?_cases h
    exact .of_eq rfl rfl rfl
  | launch =>
    obtain ⟨f, -, -, -, firings, rfl⟩ := launch?_cases h
    exact .of_eq rfl rfl rfl
  | callBack => exact callBack?_talks h
  | report i =>
    obtain ⟨f, -, -, -, rfl⟩ := report?_cases h
    have hended : Talks m { m with firings := m.firings.eraseIdx i } := .of_eq rfl rfl rfl
    exact hended.note fun _ => rfl

end actions

theorem Reachable.handling_of_talks (hr : Reachable m) (ha : m.act? a = some m') (talks : Talks m m')
    (quiet : a.changesCallers = false) (enters : ∀ i, a ≠ .move (.enter i))
    (releases : ∀ id, a ≠ .move (.release id)) (unregisters : ∀ id, a ≠ .move (.unregister id)) :
    Handling m a m' := by
  have callers := act?_sameCallers ha quiet
  have requests := act?_requests (by rintro ticket w rfl; cases quiet) enters ha
  exact .kept talks (sameReferences_of callers.owners callers.active requests
    ((hr.evolves ha).inUse enters releases unregisters))

theorem Reachable.handling_of_caller (hr : Reachable m) (ha : m.act? a = some m')
    (talks : Talks m m') (quiet : a.changesCallers = false) (caller : ∀ mv, a ≠ .move mv) :
    Handling m a m' :=
  hr.handling_of_talks ha talks quiet (fun _ => caller _) (fun _ => caller _) fun _ => caller _

theorem Reachable.handling (hr : Reachable m) (h : m.Handled) (ha : m.act? a = some m') :
    Handling m a m' := by
  cases a with
  | addEngine =>
    cases ha
    exact .opened none [] .simulated
  | openAt load mode path =>
    cases ha
    refine adopt_handling (Native.openAt_outcome load mode path) fun _ hpath c is held granted => ?_
    obtain rfl := List.mem_singleton.mp hpath
    exact .pathAt load mode _ c is held granted
  | openAny load mode override =>
    cases ha
    exact adopt_handling (Native.openAny_outcome load mode override) fun path tried c is held granted =>
      .pathAny load mode override path tried c is held granted
  | activate e =>
    simp only [act?] at ha
    split at ha
    · rename_i howned
      cases ha
      refine replaceActive_handling (some e) fun k hk => ?_
      cases hk
      exact isReferenced_iff.mpr (.inl howned)
    · cases ha
  | deactivate =>
    cases ha
    exact replaceActive_handling none (by simp)
  | disown e =>
    simp only [act?] at ha
    split at ha
    · rename_i howned
      cases ha
      exact disown_handling howned
    · cases ha
  | addToken parent =>
    cases ha
    exact .kept (.of_eq rfl rfl rfl) fun _ => rfl
  | cancelToken token =>
    have use := (hr.evolves ha).inUse (by simp) (by simp) (by simp)
    cases ha
    exact .kept (.of_eq rfl rfl rfl) fun e => isReferenced_congr rfl rfl rfl (use e)
  | ask ticket w =>
    cases ha
    exact .kept (ask_talks m ticket w) (ask_sameReferences m ticket w)
  | set e s =>
    have talks : Talks m m' := by
      cases ha
      exact talks_adjust m e _ (setting_line s _)
    exact hr.handling_of_caller ha talks rfl (by simp)
  | errorString e code =>
    have talks : Talks m m' := by
      cases ha
      exact errorString_talks m e code
    exact hr.handling_of_caller ha talks rfl (by simp)
  | cancel | dropReader | fire | fireAt =>
    have talks : Talks m m' := by
      cases ha
      exact .of_eq rfl rfl rfl
    exact hr.handling_of_caller ha talks rfl (by simp)
  | receive id =>
    have talks : Talks m m' := by
      cases ha
      exact receive_talks m id
    exact hr.handling_of_caller ha talks rfl (by simp)
  | collect engine q script =>
    have talks : Talks m m' := by
      cases ha
      exact collect_talks h engine q script
    exact hr.handling_of_caller ha talks rfl (by simp)
  | snapshot engine entities fields flags script =>
    have talks : Talks m m' := by
      cases ha
      exact snapshot_talks h engine entities fields flags script
    exact hr.handling_of_caller ha talks rfl (by simp)
  | move mv =>
    have hmove : m.move? mv = some m' := ha
    cases mv with
    | enter i => exact enter?_handling h ha
    | release id => exact release?_handling hr.numbered ha
    | unregister id => exact unregister?_handling h hr.numbered ha
    | _ =>
      have talks := move?_talks (by simp) (by simp) (by simp) hmove
      exact hr.handling_of_talks ha talks rfl (by simp) (by simp) (by simp)

theorem handled_start : Handled {} := by
  refine ⟨fun _ _ => rfl, fun e l hl => ?_, fun _ => rfl, fun call hcall => ?_⟩
  · cases hl
  · cases hcall

theorem Reachable.handled (hr : Reachable m) : m.Handled :=
  hr.induction handled_start fun _ _ _ hr h ha => h.act (hr.handling h ha)

def Obtained (as : List Action) (e : Nat) (l : Line) : Prop :=
  ∃ before a after n c calls, as = before ++ a :: after ∧ run? {} before = some n ∧
    n.engineCount = e ∧ Opens a (some c) calls ∧ c.mode = l.mode ∧ c.handle = l.handle

theorem Handling.origin (handling : Handling m a m') {e : Nat} {l : Line} (h : m'.line? e = some l) :
    (∃ l', m.line? e = some l' ∧ l'.mode = l.mode ∧ l'.handle = l.handle) ∨
      e = m.engineCount ∧ ∃ c calls, Opens a (some c) calls ∧ c.line = l := by
  cases handling with
  | kept talks same => exact .inl ⟨l, talks.lines e ▸ h, rfl, rfl⟩
  | dropped n k talks before others =>
    refine .inl ?_
    obtain ⟨-, hreap⟩ | ⟨l', -, hl, -, hlines, -⟩ := reap_cases n k
    · exact ⟨l, (talks.trans hreap).lines e ▸ h, rfl, rfl⟩
    · rw [hlines] at h
      by_cases he : e = k
      · subst he
        rw [assign_self] at h
        cases h
        exact ⟨l', talks.lines e ▸ hl, rfl, rfl⟩
      · rw [assign_of_ne _ _ he, talks.lines e] at h
        exact ⟨l, h, rfl, rfl⟩
  | opened connection calls opens =>
    rw [line?_opened] at h
    by_cases he : e = m.engineCount
    · rw [he, assign_self] at h
      cases connection with
      | none => cases h
      | some c =>
        cases h
        exact .inr ⟨he, c, calls, opens, rfl⟩
    · rw [assign_of_ne _ _ he] at h
      exact .inl ⟨l, h, rfl, rfl⟩

theorem lines_obtained (h : run? {} as = some m) : ∀ e l, m.line? e = some l → Obtained as e l := by
  refine run?_induction (P := fun as m => ∀ e l, m.line? e = some l → Obtained as e l) ?_ ?_ as m h
  · intro e l hl
    cases hl
  · intro as n a n' hn ih ha e l hl
    have hr : Reachable n := ⟨as, hn⟩
    obtain ⟨l', hl', hmode, hhandle⟩ | ⟨rfl, c, calls, opens, rfl⟩ := (hr.handling hr.handled ha).origin hl
    · obtain ⟨before, b, after, o, c, calls, rfl, ho, hcount, opens, mode, handle⟩ := ih e l' hl'
      exact ⟨before, b, after ++ [a], o, c, calls, by simp, ho, hcount, opens, mode.trans hmode,
        handle.trans hhandle⟩
    · exact ⟨as, a, [], n, c, calls, rfl, hn, rfl, opens, rfl, rfl⟩

theorem returning_iff (mode : Native.Mode) :
    (mode.returning = .stopEmbedded ↔ mode.obtaining.symbol = .startEmbedded) ∧
      (mode.returning = .disconnect ↔ mode.obtaining.symbol = .connect) := by
  cases mode <;> simp [Native.Mode.returning, Native.Mode.obtaining]

/-- In every run of callers, engines and tasks, whatever the libraries answer: a native call that takes a
handle takes the one that its own engine's library handed out; the calls for an engine are those that
opened it, then those that use the handle, and then, just when nobody keeps the engine any more, the two
that give the handle back and shut the library down, each once and the first by the way in which the
handle was obtained; and neither of them has been made while a subscription is not yet released. -/
theorem native_handles_kept (h : run? {} as = some m) :
    (∀ engine call, .native engine call ∈ m.journal → call.symbol.takesHandle = true →
      ∃ e l, engine = some e ∧ m.line? e = some l ∧ call.args.head? = some (.int l.handle)) ∧
    (∀ e l, m.line? e = some l → Obtained as e l ∧
      (∃ uses asks, m.natives (some e) =
          l.opening ++ uses ++ (if m.isReferenced e then [] else l.closing ++ asks) ∧
        (∀ call ∈ uses, l.Uses call ∨ Line.Asks call) ∧ ∀ call ∈ asks, Line.Asks call) ∧
      (l.mode.returning = .stopEmbedded ↔ l.mode.obtaining.symbol = .startEmbedded) ∧
      (l.mode.returning = .disconnect ↔ l.mode.obtaining.symbol = .connect)) ∧
    ∀ s ∈ m.subscriptions, s.phase.usesEngine = true → ∀ call ∈ m.natives (some s.key.engine),
      call.symbol ≠ .stopEmbedded ∧ call.symbol ≠ .disconnect ∧ call.symbol ≠ .shutdown := by
  have hr : Reachable m := ⟨as, h⟩
  have handled := hr.handled
  refine ⟨fun engine call hcall takes => ?_, fun e l hl => ⟨lines_obtained h e l hl, ?_,
    returning_iff l.mode⟩, fun s hs uses call hcall => ?_⟩
  · rw [← mem_natives] at hcall
    cases engine with
    | none => simp [handled.lost call hcall] at takes
    | some e =>
      obtain ⟨l, hl, ledger⟩ := handled.ledger_of_mem hcall
      exact ⟨e, l, rfl, hl, ledger.handle_eq hcall takes⟩
  · have ledger := handled.ledger e
    rw [hl] at ledger
    obtain ⟨calling, asks, hcalls, huses, hasks⟩ := ledger
    refine ⟨calling, asks, ?_, huses, hasks⟩
    rw [hcalls, handled.synced e l hl]
    cases m.isReferenced e <;> rfl
  · obtain ⟨l, hl, ledger⟩ := handled.ledger_of_mem hcall
    exact ledger.not_closing (handled.holds (isReferenced_of_use hs uses) l hl) hcall

def inherited : List Action :=
  [.openAt (fun _ => some Native.obliging) .embedded "libdcgm.so.4", .addToken none,
    .ask 0 { engine := some 0, conditions := [.thermal], token := 0 }, .disown 0, .move (.enter 0),
    .move (.start 1), .cancelToken 0, .move (.leave 1), .move (.detach 1), .move (.release 1)]

theorem inherited_returns_handle : ∃ m m' s uses asks, run? {} inherited = some m ∧
    m.act? (.move (.unregister 1)) = some m' ∧ s ∈ m.subscriptions ∧ (m.engines 0).owned = false ∧
    (∀ call ∈ m.natives (some s.key.engine),
      call.symbol ≠ .stopEmbedded ∧ call.symbol ≠ .disconnect ∧ call.symbol ≠ .shutdown) ∧
    m'.line? 0 = some ⟨.embedded, 41, true⟩ ∧
    m'.natives (some 0) = [⟨.init, []⟩, ⟨.startEmbedded, [.int 1]⟩] ++ uses ++
      ([⟨.stopEmbedded, [.int 41]⟩, ⟨.shutdown, []⟩] ++ asks) := by
  let m := (run? {} inherited).get (by decide +kernel)
  let m' := (m.act? (.move (.unregister 1))).get (by decide +kernel)
  have hm : run? {} inherited = some m := by simp [m]
  have unregistered : m.act? (.move (.unregister 1)) = some m' := by simp [m']
  have hm' : run? {} (inherited ++ [.move (.unregister 1)]) = some m' := by
    rw [run?_append, hm]
    simpa using unregistered
  obtain ⟨s, hs, calling⟩ : ∃ s ∈ m.subscriptions, s.phase.usesEngine = true := by decide +kernel
  have disowned : (m.engines 0).owned = false := by decide +kernel
  have line : m'.line? 0 = some ⟨.embedded, 41, true⟩ := by decide +kernel
  have left : m'.isReferenced 0 = false := by decide +kernel
  obtain ⟨-, -, kept⟩ := native_handles_kept hm
  obtain ⟨-, lines, -⟩ := native_handles_kept hm'
  obtain ⟨-, ⟨uses, asks, calls, -, -⟩, -⟩ := lines 0 _ line
  rw [left] at calls
  exact ⟨m, m', s, uses, asks, hm, unregistered, hs, disowned, kept s hs calling, line, calls⟩

end Monitor

end GpuTelemetry
