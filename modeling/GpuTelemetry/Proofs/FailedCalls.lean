import GpuTelemetry.Proofs.Borrowing
import GpuTelemetry.Proofs.Effects
import GpuTelemetry.Proofs.NativeHandles
import GpuTelemetry.Proofs.Opening

namespace GpuTelemetry

namespace Native

def failing? (returns : List (Symbol × Int32)) : Option (Symbol × Int32) :=
  returns.find? (·.2 != 0)

/-- No failure is hidden, and a failure is told as the first call that failed returned it. -/
def Faithful {α : Type} (returns : List (Symbol × Int32)) : Except Failure α → Prop
  | .ok _ => failing? returns = none
  | .error .noData => ∃ s, failing? returns = some (s, Status.noData.code)
  | .error (.engine call status) => ∃ s, failing? returns = some (s, status.code) ∧ call = s.name
  | .error _ => True

theorem faithful_ofStatus_iff {α : Type} {s : Symbol} {code : Int32} (call : String)
    (before after : List (Symbol × Int32)) (passed : ∀ r ∈ before, r.2 = 0) (failed : code ≠ 0) :
    Faithful (before ++ (s, code) :: after)
        (.error (.ofStatus call (.ofCode code)) : Except Failure α) ↔
      code = Status.noData.code ∨ call = s.name := by
  have hfirst : failing? (before ++ (s, code) :: after) = some (s, code) := by
    rw [failing?, List.find?_append, List.find?_eq_none.mpr (by simpa using passed)]
    simp [failed]
  unfold Failure.ofStatus
  split
  · rename_i hnone
    have hcode : code = Status.noData.code := Status.ofCode_eq_noData_iff.mp hnone
    exact ⟨fun _ => .inl hcode, fun _ => ⟨s, by rw [hfirst, hcode]⟩⟩
  · rename_i hnone
    have hcode : code ≠ Status.noData.code := fun h => hnone (Status.ofCode_eq_noData_iff.mpr h)
    simp [Faithful, hfirst, Status.code_ofCode, hcode]

theorem faithful_named {α : Type} {s : Symbol} {code : Int32} (before after : List (Symbol × Int32))
    (passed : ∀ r ∈ before, r.2 = 0) (failed : code ≠ 0) :
    Faithful (before ++ (s, code) :: after)
      (.error (.ofStatus s.name (.ofCode code)) : Except Failure α) :=
  (faithful_ofStatus_iff s.name before after passed failed).mpr (.inr rfl)

theorem faithful_of_status?_none {α : Type} {returns : List (Symbol × Int32)} {f : Failure}
    (h : f.status? = none) : Faithful returns (.error f : Except Failure α) := by
  cases f with
  | noData | engine => cases h
  | _ => trivial

section openings

def returns (image : Image) (calls : List Call) : List (Symbol × Int32) :=
  calls.map fun call => (call.symbol, image.codes call.symbol)

theorem obtain_obtaining (image : Image) (mode : Mode) :
    (∃ address text, mode = .standalone address ∧
      obtain image mode = .error (.invalidArgument text)) ∨
    ∃ handle, obtain image mode = .ok (image.codes mode.obtaining.symbol, handle, mode.obtaining) := by
  cases mode with
  | embedded => exact .inr ⟨_, rfl⟩
  | standalone address =>
    simp only [Native.obtain]
    split
    · exact .inl ⟨address, _, rfl, rfl⟩
    · exact .inr ⟨_, rfl⟩

theorem connect_faithful_iff (image : Image) (mode : Mode) :
    Faithful (returns image (connect image mode).2) (connect image mode).1 ↔
      ¬ (mode = .embedded ∧ image.codes .init = 0 ∧ image.codes .startEmbedded ≠ 0 ∧
        image.codes .startEmbedded ≠ Status.noData.code) := by
  obtain ⟨hinit, hcheck⟩ | ⟨hinit, hcheck⟩ := Status.check_code (image.codes .init) Symbol.init.name
  · obtain ⟨address, text, rfl, hobtain⟩ | ⟨handle, hobtain⟩ := obtain_obtaining image mode
    · simp [connect, hcheck, hobtain, Faithful]
    · obtain ⟨hcode, hcheck'⟩ | ⟨hcode, hcheck'⟩ :=
        Status.check_code (image.codes mode.obtaining.symbol) Symbol.connect.name
      · have hconnect : connect image mode =
            (.ok ⟨image, mode, handle, false⟩, [⟨.init, []⟩, mode.obtaining]) := by
          simp only [connect, hcheck, hobtain, hcheck']
        rw [hconnect]
        refine iff_of_true (by simp [Faithful, failing?, returns, hinit, hcode]) ?_
        rintro ⟨rfl, -, hstart, -⟩
        exact hstart hcode
      · have hconnect : connect image mode =
            (.error (.ofStatus Symbol.connect.name (.ofCode (image.codes mode.obtaining.symbol))),
              [⟨.init, []⟩, mode.obtaining, ⟨.shutdown, []⟩]) := by
          simp only [connect, hcheck, hobtain, hcheck']
        rw [hconnect]
        -- one name for whichever of the two calls was made
        refine (faithful_ofStatus_iff Symbol.connect.name [(.init, image.codes .init)]
          [(.shutdown, image.codes .shutdown)] (by simpa using hinit) hcode).trans ?_
        cases mode with
        | embedded =>
          have hname : Symbol.connect.name ≠ Symbol.startEmbedded.name := by decide
          change image.codes .startEmbedded ≠ 0 at hcode
          change image.codes .startEmbedded = _ ∨ Symbol.connect.name = Symbol.startEmbedded.name ↔ _
          simp [hname, hinit, hcode]
        | standalone address => simp [Mode.obtaining]
  · have hconnect : connect image mode =
        (.error (.ofStatus Symbol.init.name (.ofCode (image.codes .init))), [⟨.init, []⟩]) := by
      simp only [connect, hcheck]
    rw [hconnect]
    refine iff_of_true ?_ fun hstart => hinit hstart.2.1
    exact faithful_named [] [] (by simp) hinit

variable (load : Loader) (mode : Mode) (path : String)

def returned : List (Symbol × Int32) :=
  match load path with
  | some image => returns image (openAt load mode path).2
  | none => []

structure Misnamed : Prop where
  embedded : mode = .embedded
  starts : ∃ image, load path = some image ∧ (∀ s, image.exports s = true) ∧
    image.codes .init = 0 ∧ image.codes .startEmbedded ≠ 0 ∧
    image.codes .startEmbedded ≠ Status.noData.code

variable {load mode path}

theorem openAt_faithful_iff : Faithful (returned load mode path) (openAt load mode path).1 ↔
    ¬ Misnamed load mode path := by
  unfold returned openAt
  cases hload : load path with
  | none =>
    refine iff_of_true trivial ?_
    rintro ⟨-, image, hloaded, -⟩
    simp [hload] at hloaded
  | some image =>
    have hiff : Misnamed load mode path ↔ (∀ s, image.exports s = true) ∧ mode = .embedded ∧
        image.codes .init = 0 ∧ image.codes .startEmbedded ≠ 0 ∧
        image.codes .startEmbedded ≠ Status.noData.code := by
      constructor
      · rintro ⟨hmode, other, hother, complete, hcodes⟩
        obtain rfl := Option.some.inj (hload.symm.trans hother)
        exact ⟨complete, hmode, hcodes⟩
      · rintro ⟨complete, hmode, hcodes⟩
        exact ⟨hmode, image, hload, complete, hcodes⟩
    rw [hiff]
    simp only
    split
    · rename_i s hfind
      have hlacks : image.exports s = false := by simpa using List.find?_some hfind
      refine iff_of_true trivial fun h => ?_
      simp [h.1 s] at hlacks
    · rename_i hfind
      have complete (s : Symbol) : image.exports s = true := by
        simpa using List.find?_eq_none.mp hfind s s.mem_all
      simpa [complete] using connect_faithful_iff image mode

theorem Misnamed.outcome (h : Misnamed load mode path) : ∃ image, load path = some image ∧
    (openAt load mode path).1 =
      .error (.engine Symbol.connect.name (.ofCode (image.codes .startEmbedded))) := by
  obtain ⟨rfl, image, hload, complete, hinit, hstart, hdata⟩ := h
  refine ⟨image, hload, ?_⟩
  have hfind : (Symbol.all.find? fun s => !image.exports s) = none := by simp [complete]
  have hcheck : (Status.ofCode (image.codes .startEmbedded)).check Symbol.connect.name =
      .error (.engine Symbol.connect.name (.ofCode (image.codes .startEmbedded))) := by
    obtain ⟨hzero, -⟩ | ⟨-, hcheck⟩ :=
      Status.check_code (image.codes .startEmbedded) Symbol.connect.name
    · exact absurd hzero hstart
    · rw [hcheck, Failure.ofStatus, if_neg (Status.ofCode_eq_noData_iff.not.mpr hdata)]
  have hinit' : (Status.ofCode (image.codes .init)).check Symbol.init.name = .ok () := by
    rw [hinit]
    rfl
  simp only [openAt, hload, hfind, connect, hinit', Native.obtain, hcheck]

theorem search_faithful_iff (fault : LibraryFault) (paths : List String) :
    Faithful ((tried load mode paths).flatMap (returned load mode)) (search load mode fault paths).1 ↔
      ¬ ∃ path ∈ tried load mode paths, Misnamed load mode path := by
  induction paths generalizing fault with
  | nil => simp [tried, search, Faithful]
  | cons path rest ih =>
    obtain ⟨next, hfound, -, htried, hsearch⟩ | ⟨htried, hsearch⟩ :=
      search_cons load mode fault path rest
    · have hnot : ¬ Misnamed load mode path := by
        rw [← openAt_faithful_iff, hfound]
        trivial
      have hnone : returned load mode path = [] := by
        unfold returned
        split
        · simp [hfound, returns]
        · rfl
      simpa [htried, hsearch, hnone, hnot] using ih next
    · simpa [htried, hsearch] using openAt_faithful_iff

theorem openAny_faithful_iff (override : Option String) :
    Faithful ((tried load mode (candidates override)).flatMap (returned load mode))
        (openAny load mode override).1 ↔
      ¬ ∃ path ∈ tried load mode (candidates override), Misnamed load mode path := by
  unfold openAny candidates
  cases override.filter (!·.isEmpty) with
  | none => exact search_faithful_iff _ searchPaths
  | some path =>
    have htried : tried load mode [path] = [path] := by
      unfold tried
      split <;> rfl
    simpa [htried] using openAt_faithful_iff

end openings

end Native

open Native (Symbol Faithful)

def Simulator.answer (s : Simulator) : Symbol → Status
  | .valuesSince => s.historyStatus
  | .latestValues => s.snapshotStatus
  | .policySet => s.policyStatus
  | .policyRegister => s.registerStatus
  | _ => .ok

namespace Engine

/-- The code that an entry point of the library returns: its own, or that of the library's engine. -/
def returned (e : Engine) (s : Symbol) : Int32 :=
  match e.connection with
  | some c => if c.codeOf s = 0 then (e.sim.answer s).code else c.codeOf s
  | none => 0

def returns (e : Engine) (calls : List Native.Call) : List (Symbol × Int32) :=
  calls.map fun call => (call.symbol, e.returned call.symbol)

structure Linked (e : Engine) : Prop where
  connected : e.connection.isSome = true
  codes : ∀ s, Status.ofCode (e.sim.answer s).code = e.sim.answer s

structure Told (e : Engine) (s : Symbol) (status : Status) (calls : List Native.Call) : Prop where
  made : ∃ args, calls = [⟨s, args⟩]
  status : status = .ofCode (e.returned s)

variable {e e' : Engine}

theorem Linked.through (h : e.Linked) {α : Type} {s : Symbol} (args : List Native.Arg)
    {refuse : Status → α} {act : Simulator → α × Simulator} (status : α → Status)
    (refused : ∀ st, status (refuse st) = st) (acted : status (act e.sim).1 = e.sim.answer s) :
    e.Told s (status (e.through s args refuse act).1) (e.through s args refuse act).2.2 := by
  obtain ⟨c, hc⟩ := Option.isSome_iff_exists.mp h.connected
  have hreturned : e.returned s = if c.codeOf s = 0 then (e.sim.answer s).code else c.codeOf s := by
    simp only [returned, hc]
  simp only [Engine.through, hc]
  split
  · rename_i hzero
    rw [if_pos hzero] at hreturned
    exact ⟨⟨_, rfl⟩, by rw [hreturned, h.codes, acted]⟩
  · rename_i hcode
    rw [if_neg hcode] at hreturned
    exact ⟨⟨_, rfl⟩, by rw [hreturned, refused]⟩

theorem Linked.history (h : e.Linked) (q : History.Query) :
    e.Told .valuesSince (e.history q).1.status (e.history q).2.2 :=
  h.through _ History.Reply.status (fun _ => rfl) rfl

theorem Linked.snapshot (h : e.Linked) {entities : List (UInt32 × UInt32)} {fields : List UInt16}
    (flags : UInt32) {slots : Array EntityRecord} (size : slots.size = entities.length * fields.length) :
    e.Told .latestValues (e.snapshot entities fields flags slots).1.1
      (e.snapshot entities fields flags slots).2.2 := by
  rw [Engine.snapshot, if_neg (by simp [size])]
  refine h.through _ Prod.fst (fun _ => rfl) ?_
  simp only [Simulator.snapshot, size, ne_eq, not_true_eq_false, if_false]
  split
  · rename_i hok
    exact (Status.isOk_iff.mp hok).symm
  · rfl

theorem Linked.setPolicy (h : e.Linked) (group : GroupId) (p : Policy) :
    e.Told .policySet (e.setPolicy group p).1 (e.setPolicy group p).2.2 := by
  refine h.through _ id (fun _ => rfl) ?_
  simp only [Simulator.setPolicy]
  split
  · rename_i hok
    exact (Status.isOk_iff.mp hok).symm
  · rfl

theorem Linked.register (h : e.Linked) (group : GroupId) (mask : UInt32) (user : Nat) :
    e.Told .policyRegister (e.register group mask user).1 (e.register group mask user).2.2 := by
  refine h.through _ id (fun _ => rfl) ?_
  simp only [Simulator.register]
  split
  · rename_i hok
    exact (Status.isOk_iff.mp hok).symm
  · rfl

theorem setPolicy_answers (e : Engine) (group : GroupId) (p : Policy) :
    (e.setPolicy group p).2.1.connection = e.connection ∧
      (e.setPolicy group p).2.1.sim.answer = e.sim.answer := by
  have hsim : (e.sim.setPolicy group p).2.answer = e.sim.answer := by
    unfold Simulator.setPolicy
    split <;> rfl
  unfold setPolicy
  obtain ⟨calls, hcall⟩ | ⟨status, calls, -, hcall⟩ := e.through_cases .policySet
    [.int group.toNat, .int p.condition.toNat, .int 0] id (·.setPolicy group p)
  · rw [hcall]
    exact ⟨rfl, hsim⟩
  · rw [hcall]
    exact ⟨rfl, rfl⟩

theorem returned_congr (connection : e'.connection = e.connection)
    (answer : e'.sim.answer = e.sim.answer) : e'.returned = e.returned := by
  funext s
  simp only [returned, connection, answer]

theorem Linked.congr (h : e.Linked) (connection : e'.connection = e.connection)
    (answer : e'.sim.answer = e.sim.answer) : e'.Linked :=
  ⟨by rw [connection]; exact h.connected, fun s => by rw [answer]; exact h.codes s⟩

end Engine

theorem faithful_check {α : Type} (s : Symbol) (code : Int32) (a : α) :
    Faithful [(s, code)] (match (Status.ofCode code).check s.name with
      | .error f => .error f
      | .ok _ => .ok a) := by
  obtain ⟨rfl, hcheck⟩ | ⟨hcode, hcheck⟩ := Status.check_code code s.name
  · rw [hcheck]
    rfl
  · rw [hcheck]
    exact Native.faithful_named [] [] (by simp) hcode

theorem History.Query.result_faithful (q : Query) {reply : Reply} {code : Int32}
    (h : reply.status = .ofCode code) : Faithful [(.valuesSince, code)] (q.result reply) := by
  unfold result
  simp only
  split
  · trivial
  · rw [h]
    exact faithful_check .valuesSince code _

theorem Snapshot.result_faithful (code : Int32) (slots : Array EntityRecord) :
    Faithful [(.latestValues, code)] (result (.ofCode code) slots) :=
  faithful_check .latestValues code _

namespace Monitor

variable {m m' : Monitor} {engine : Option Nat} {e : Nat}

def Tells {α : Type} (m : Monitor) (e : Nat) (x : Except Failure α × Monitor) : Prop :=
  ∃ calls, x.2.natives (some e) = m.natives (some e) ++ calls ∧
    Faithful ((m.engines e).returns calls) x.1

theorem collect_tells (he : m.resolve engine = .ok e) (linked : (m.engines e).Linked)
    (q : History.Query) : m.Tells e (m.collect engine q none) := by
  have hcollect : m.collect engine q none =
      (q.result ((m.engines e).history q).1, (m.askHistory e q none).2) := by
    simp only [collect, he]
    rfl
  have hcalls : (m.askHistory e q none).2.natives (some e) =
      m.natives (some e) ++ ((m.engines e).history q).2.2 :=
    natives_call m e (.history q.group q.fieldGroup q.since)
      (fun reply : History.Reply => some reply.status) fun g => g.history q
  obtain ⟨⟨args, hmade⟩, hstatus⟩ := linked.history q
  rw [hcollect]
  refine ⟨_, hcalls, ?_⟩
  rw [hmade]
  exact q.result_faithful hstatus

theorem natives_reserve (m : Monitor) (reserve : Reserve EntityRecord) (engine : Option Nat) :
    ({ m with reserve } : Monitor).natives engine = m.natives engine := rfl

section served

variable (m e) (n : Nat) (entities : List Entity) (fields : List UInt16) (flags : UInt32)

theorem served_answer : (m.served e n entities fields flags none).1 =
    ((m.engines e).snapshot (entities.map Entity.codes) fields flags (m.reserve.lend n).1.slots).1 := by
  -- the call does not depend on how the slots were come by
  rw [served]
  generalize (m.reserve.lend n).1.slots = slots
  rfl

theorem served_natives : (m.served e n entities fields flags none).2.natives (some e) =
    m.natives (some e) ++ ((m.engines e).snapshot (entities.map Entity.codes) fields flags
      (m.reserve.lend n).1.slots).2.2 := by
  rw [served]
  generalize (m.reserve.lend n).1.slots = slots
  exact natives_call (m.lent n) e (.snapshot (entities.map Entity.codes) fields flags slots.size)
    (fun answer : Status × Array EntityRecord => some answer.1)
    fun g => g.snapshot (entities.map Entity.codes) fields flags slots

end served

theorem snapshot_tells (he : m.resolve engine = .ok e) (linked : (m.engines e).Linked)
    (entities : List Entity) (fields : List UInt16) (flags : UInt32) :
    m.Tells e (m.snapshot engine entities fields flags none) := by
  cases hslots : Snapshot.slots entities fields with
  | error f =>
    rw [snapshot_rejected he hslots]
    exact ⟨[], (List.append_nil _).symm, Native.faithful_of_status?_none (Snapshot.slots_refused hslots)⟩
  | ok n =>
    have hsize : (m.reserve.lend n).1.slots.size = (entities.map Entity.codes).length * fields.length := by
      rw [Reserve.size_lend, Snapshot.slots_exact hslots]
    obtain ⟨⟨args, hmade⟩, hstatus⟩ := linked.snapshot flags hsize
    have hcalls := m.served_natives e n entities fields flags
    rw [hmade] at hcalls
    rw [snapshot_served he hslots, served_answer, hstatus, Tells, natives_reserve]
    exact ⟨_, hcalls, Snapshot.result_faithful _ _⟩

structure Ended (m : Monitor) (r : Request) (calls : List Native.Call) (outcome : Except Failure Nat)
    (m' : Monitor) : Prop where
  outcome : m'.outcome? r.ticket = some outcome
  calls : m'.natives (some r.key.engine) = m.natives (some r.key.engine) ++ calls

theorem Ended.after {o : Monitor} {r : Request} {calls more : List Native.Call}
    {outcome : Except Failure Nat} (h : Ended o r more outcome m')
    (made : o.natives (some r.key.engine) = m.natives (some r.key.engine) ++ calls) :
    Ended m r (calls ++ more) outcome m' :=
  ⟨h.outcome, by rw [h.calls, made, List.append_assoc]⟩

theorem Ended.tells {r : Request} {calls : List Native.Call} {outcome : Except Failure Nat}
    (h : Ended m r calls outcome m') (faithful : Faithful ((m.engines r.key.engine).returns calls) outcome) :
    ∃ outcome, m'.outcome? r.ticket = some outcome ∧ m.Tells r.key.engine (outcome, m') :=
  ⟨outcome, h.outcome, calls, h.calls, faithful⟩

theorem ended_fail (m : Monitor) (r : Request) (f : Failure) :
    ∃ calls, Ended m r calls (.error f) (m.fail r f) :=
  ⟨_, outcome?_fail r m f, natives_noteNative _ _ _ _⟩

theorem ended_join (m : Monitor) (r : Request) : Ended m r [] (.ok m.lastId) (m.join r) :=
  ⟨by simp [outcome?, join], (List.append_nil _).symm⟩

theorem askPolicy_told (r : Request) (linked : (m.engines r.key.engine).Linked) :
    ∃ args, (m.askPolicy r).2.natives (some r.key.engine) =
        m.natives (some r.key.engine) ++ [⟨.policySet, args⟩] ∧
      (m.askPolicy r).1 = .ofCode ((m.engines r.key.engine).returned .policySet) ∧
      ((m.askPolicy r).2.engines r.key.engine).Linked ∧
      ((m.askPolicy r).2.engines r.key.engine).returned = (m.engines r.key.engine).returned := by
  obtain ⟨⟨args, hmade⟩, hstatus⟩ := linked.setPolicy r.key.group (m.policyFor r)
  obtain ⟨hconnection, hanswer⟩ :=
    (m.engines r.key.engine).setPolicy_answers r.key.group (m.policyFor r)
  have hengine : (m.askPolicy r).2.engines r.key.engine =
      ((m.engines r.key.engine).setPolicy r.key.group (m.policyFor r)).2.1 := assign_self ..
  rw [hengine]
  refine ⟨args, ?_, hstatus, linked.congr hconnection hanswer,
    Engine.returned_congr hconnection hanswer⟩
  rw [← hmade]
  exact natives_call m r.key.engine (.setPolicy r.key.group (m.policyFor r)) some
    fun g => g.setPolicy r.key.group (m.policyFor r)

theorem askRegistration_told (r : Request) (linked : (m.engines r.key.engine).Linked) :
    ∃ args, (m.askRegistration r).2.natives (some r.key.engine) =
        m.natives (some r.key.engine) ++ [⟨.policyRegister, args⟩] ∧
      (m.askRegistration r).1 = .ofCode ((m.engines r.key.engine).returned .policyRegister) := by
  let mask := Condition.maskOf r.conditions
  obtain ⟨⟨args, hmade⟩, hstatus⟩ := linked.register r.key.group mask (m.lastId + 1)
  refine ⟨args, ?_, hstatus⟩
  rw [← hmade]
  exact natives_call { m with lastId := m.lastId + 1, registry := (m.lastId + 1) :: m.registry }
    r.key.engine (.register r.key.group mask (m.lastId + 1)) some
    fun g => g.register r.key.group mask (m.lastId + 1)

theorem enrol_tells (r : Request) (linked : (m.engines r.key.engine).Linked) :
    ∃ outcome, (m.enrol r).outcome? r.ticket = some outcome ∧
      m.Tells r.key.engine (outcome, m.enrol r) := by
  obtain ⟨args, hset, hstatus, linked', hreturned⟩ := askPolicy_told r linked
  obtain ⟨args', hregister, hstatus'⟩ := askRegistration_told r linked'
  rw [hreturned] at hstatus'
  have hend := enrol_cases m r
  generalize m.enrol r = m' at hend
  cases hend with
  | policyRefused refused =>
    -- `more` are the calls that give the engine back, if this was the last reference to it
    obtain ⟨more, hmore⟩ := ended_fail (m.askPolicy r).2 r
      (.ofStatus Symbol.policySet.name (m.askPolicy r).1)
    rw [hstatus, Status.ofCode_failed] at refused
    refine (hmore.after hset).tells ?_
    rw [hstatus]
    exact Native.faithful_named [] _ (by simp) refused
  | registrationRefused o ho accepted refused =>
    subst ho
    obtain ⟨more, hmore⟩ := ended_fail
      { ((m.askPolicy r).2.askRegistration r).2 with registry := m.registry } r
      (.ofStatus Symbol.policyRegister.name ((m.askPolicy r).2.askRegistration r).1)
    rw [hstatus, Status.ofCode_isOk] at accepted
    rw [hstatus', Status.ofCode_failed] at refused
    refine ((hmore.after hregister).after hset).tells ?_
    rw [hstatus']
    exact Native.faithful_named [(.policySet, _)] _ (by simpa using accepted) refused
  | joined o ho accepted registered =>
    subst ho
    rw [hstatus, Status.ofCode_isOk] at accepted
    rw [hstatus', Status.ofCode_isOk] at registered
    refine (((ended_join _ r).after hregister).after hset).tells ?_
    simpa [Faithful, Native.failing?, Engine.returns] using ⟨accepted, registered⟩

theorem enter?_tells {i : Nat} {r : Request} (waits : m.requests[i]? = some r)
    (h : m.enter? i = some m') (linked : (m.engines r.key.engine).Linked) :
    ∃ outcome, m'.outcome? r.ticket = some outcome ∧ m.Tells r.key.engine (outcome, m') := by
  obtain ⟨r', waits', -, rfl⟩ := enter?_cases h
  obtain rfl := Option.some.inj (waits.symm.trans waits')
  exact enrol_tells (m := { m with requests := m.requests.eraseIdx i }) r linked

theorem requestOf_refused {ticket : Nat} {w : Wish} {f : Failure} (he : m.resolve w.engine = .ok e)
    (h : m.requestOf ticket w = .error f) : f.status? = none := by
  simp only [requestOf, he] at h
  repeat' split at h
  all_goals cases h
  all_goals rfl

theorem snapshot_scripted (he : m.resolve engine = .ok e) (entities : List Entity)
    (fields : List UInt16) (flags : UInt32) {answer : Array EntityRecord → Snapshot.Answer}
    {code : Int32} (answered : ∀ slots, (answer slots).status = .ofCode code) :
    Faithful [(.latestValues, code)] (m.snapshot engine entities fields flags (some answer)).1 := by
  cases hslots : Snapshot.slots entities fields with
  | error f =>
    rw [snapshot_rejected he hslots]
    exact Native.faithful_of_status?_none (Snapshot.slots_refused hslots)
  | ok n =>
    have hstatus : (m.served e n entities fields flags (some answer)).1.1 = .ofCode code :=
      answered _
    rw [snapshot_served he hslots, hstatus]
    exact Snapshot.result_faithful code _

end Monitor

open Native (Loader Mode Misnamed openAt openAny tried candidates)

/-- What is told of the calls to a native library, for every operation and every return code. A history
or a snapshot may also have written something before it fails. -/
theorem failures_name_their_call_iff (load : Loader) (mode : Mode) (m : Monitor) :
    (∀ path, (Faithful (Native.returned load mode path) (openAt load mode path).1 ↔
        ¬ Misnamed load mode path) ∧
      (Misnamed load mode path → ∃ image, load path = some image ∧
        (openAt load mode path).1 =
          .error (.engine Symbol.connect.name (.ofCode (image.codes .startEmbedded))))) ∧
    (∀ override,
      Faithful ((tried load mode (candidates override)).flatMap (Native.returned load mode))
        (openAny load mode override).1 ↔
      ¬ ∃ path ∈ tried load mode (candidates override), Misnamed load mode path) ∧
    (∀ engine e, m.resolve engine = .ok e → (m.engines e).Linked →
      (∀ q, m.Tells e (m.collect engine q none)) ∧
      (∀ q deliveries cursor code, Faithful [(.valuesSince, code)]
        (m.collect engine q (some ⟨deliveries, cursor, .ofCode code⟩)).1) ∧
      (∀ entities fields flags, m.Tells e (m.snapshot engine entities fields flags none)) ∧
      (∀ entities fields flags answer code, (∀ slots, (answer slots).status = .ofCode code) →
        Faithful [(.latestValues, code)] (m.snapshot engine entities fields flags (some answer)).1) ∧
      ∀ ticket (w : Monitor.Wish) f, w.engine = engine → m.requestOf ticket w = .error f →
        f.status? = none) ∧
    ∀ m' i (r : Request), m.requests[i]? = some r → m.enter? i = some m' →
      (m.engines r.key.engine).Linked →
      ∃ outcome, m'.outcome? r.ticket = some outcome ∧ m.Tells r.key.engine (outcome, m') := by
  refine ⟨fun path => ⟨Native.openAt_faithful_iff, Misnamed.outcome⟩, Native.openAny_faithful_iff,
    fun engine e he linked => ⟨Monitor.collect_tells he linked, ?_, Monitor.snapshot_tells he linked,
      fun entities fields flags answer code => Monitor.snapshot_scripted he entities fields flags, ?_⟩,
    fun m' i r => Monitor.enter?_tells⟩
  · intro q deliveries cursor code
    simp only [Monitor.collect, he]
    exact q.result_faithful rfl
  · rintro ticket w f rfl
    exact Monitor.requestOf_refused he

def deaf : Native.Image :=
  { Native.obliging with codes := fun s => if s = .policyRegister then -6 else 0 }

def knocking : Monitor :=
  (({} : Monitor).addEngine { connection := some ⟨deaf, .embedded, 41, false⟩ }).ask 1
    { engine := some 0, conditions := [.thermal], token := 0 }

theorem refused_registration_named : ∃ m', knocking.enter? 0 = some m' ∧
    Faithful ((knocking.engines 0).returns (m'.natives (some 0)))
      (.error (.engine "dcgmPolicyRegister_v2" .notSupported) : Except Failure Nat) := by
  have linked : (knocking.engines 0).Linked := ⟨rfl, fun s => by cases s <;> rfl⟩
  obtain ⟨outcome, houtcome, calls, hcalls, hfaithful⟩ :=
    (failures_name_their_call_iff (fun _ => none) .embedded knocking).2.2.2 _ 0
      ⟨1, ⟨0, allGpus⟩, [.thermal], {}, 0⟩ rfl rfl linked
  obtain rfl : .error (.engine "dcgmPolicyRegister_v2" .notSupported) = outcome :=
    Option.some.inj houtcome
  refine ⟨_, rfl, ?_⟩
  rw [show _ = calls from hcalls]
  exact hfaithful

def broken : Native.Image :=
  { Native.obliging with codes := fun s => if s = .startEmbedded then -7 else 0 }

/-- The engine does not start, and nobody has asked for a connection. -/
theorem failed_start_named_connect : ∃ load path,
    Native.returned load .embedded path = [(.init, 0), (.startEmbedded, -7), (.shutdown, 0)] ∧
    (openAt load .embedded path).1 = .error (.engine "dcgmConnect" .initError) ∧
    ¬ Faithful (Native.returned load .embedded path) (openAt load .embedded path).1 := by
  let load : Loader := fun _ => some broken
  have hreturned : Native.returned load .embedded "libdcgm.so.4" =
      [(.init, 0), (.startEmbedded, -7), (.shutdown, 0)] := by decide +kernel
  have houtcome : (openAt load .embedded "libdcgm.so.4").1 =
      .error (.engine "dcgmConnect" .initError) := rfl
  refine ⟨load, "libdcgm.so.4", hreturned, houtcome, ?_⟩
  rw [hreturned, houtcome]
  rintro ⟨s, hfirst, hname⟩
  obtain rfl : .startEmbedded = s := congrArg Prod.fst (Option.some.inj hfirst)
  exact absurd hname (by decide)

end GpuTelemetry
