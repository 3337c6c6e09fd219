import Mathlib.Data.List.DropRight
import ScopedLog.Key.Kinds
import ScopedLog.Proofs.Session.Captures
import ScopedLog.Proofs.Session.Sinks
set_option autoImplicit false

namespace ScopedLog

namespace Recorder

theorem occursIn_iff (needle s : List Char) : occursIn needle s = true ↔ needle <:+: s := by
  induction s with
  | nil => rw [occursIn, List.isEmpty_iff, List.infix_nil]
  | cons c s ih =>
    rw [occursIn, Bool.or_eq_true, List.isPrefixOf_iff_prefix, ih, List.infix_cons_iff]

/-- All that a recorder lets be seen, where it keeps the records given. To look changes nothing. -/
structure Shows (r : Recorder) (p : Program) (kept : List CapturedRecord) : Prop where
  records : r.records.run p = (kept, p)
  messages : r.messages.run p = (kept.map (·.message), p)
  last : r.last.run p = (kept.getLast?, p)
  contains : ∀ needle, ∃ found, (r.contains needle).run p = (found, p) ∧
    (found = true ↔ ∃ x ∈ kept, needle.toList <:+: x.message.toList) ∧
    (r.assertContains needle).run.run p =
      (if found then .ok () else .error (.panicked (missing needle (kept.map (·.message)))), p)

theorem shows_records (r : Recorder) (p : Program) :
    r.Shows p (p.captures r.sink.id).records := by
  refine ⟨rfl, rfl, rfl, fun needle => ?_⟩
  let kept := (p.captures r.sink.id).records
  refine ⟨(kept.map (·.message)).any fun m => occursIn needle.toList m.toList, rfl, ?_, ?_⟩
  · simp [occursIn_iff, kept]
  · change StateT.run (ExceptT.run (if (kept.map (·.message)).any
      (fun m => occursIn needle.toList m.toList) then pure ()
      else do throw (.panicked (missing needle (← r.messages))) : Attempt Unit)) p = _
    split <;> rfl

end Recorder

namespace Session

variable {κ : Type}

def Operation.formats : Operation κ → Bool
  | .log _ _ (.failing _) | .emit _ _ _ (.failing _) => false
  | _ => true

def Moment.clears (k : Sink) (m : Moment κ) : Bool :=
  match m.operation with
  | .clear recorder => (m.before.registers.recorders.get? recorder).any fun r => r.sink = k
  | _ => false

/-- What goes to a sink that keeps records of a level and above. A call through an entry is held
    against the level; what is handed to the sink itself is not. -/
def Moment.keeps (k : Sink) (least : Level) (m : Moment κ) : List CapturedRecord :=
  match m.operation with
  | .log logger call (.text s) =>
    match m.before.entryNamed logger with
    | some e => if e.sink = k ∧ least ≤ call.level then [⟨call.level, s, e.fields⟩] else []
    | none => []
  | .emit name level fields (.text s) =>
    match m.before.entryNamed name with
    | some e => if e.sink = k then [⟨level, s, fields⟩] else []
    | none => []
  | _ => []

/-- What was logged to a sink since it was last cleared, the oldest record first. -/
def recorded (k : Sink) (least : Level) (ms : List (Moment κ)) : List CapturedRecord :=
  (ms.rtakeWhile fun m => !m.clears k).flatMap (·.keeps k least)

def Operation.levelFor? (name : String) : Operation κ → Option Level
  | .recorder into least => if name = into then some least else none
  | _ => none

/-- The least level that the newest recorder of the name was asked to keep. -/
def levelGiven (name : String) (ms : List (Moment κ)) : Option Level :=
  (ms.filterMap fun m => m.operation.levelFor? name).getLast?

theorem levelGiven_concat (name : String) (past : List (Moment κ)) (m : Moment κ) :
    levelGiven name (past ++ [m]) = (m.operation.levelFor? name).or (levelGiven name past) := by
  unfold levelGiven
  rw [List.filterMap_append, List.getLast?_append]
  cases given : m.operation.levelFor? name <;> simp [given]

theorem recorded_concat (k : Sink) (least : Level) (past : List (Moment κ)) (m : Moment κ) :
    recorded k least (past ++ [m]) =
      if m.clears k then [] else recorded k least past ++ m.keeps k least := by
  unfold recorded
  rw [List.rtakeWhile_concat]
  cases m.clears k <;> simp

theorem arrival_log_text (s : State κ) (id : Nat) (logger : String) (call : LogCall)
    (text : String) :
    s.arrival id (.log logger call (.text text)) = (s.entryNamed logger).bind fun e =>
      e.arrival s.program.facade id call.level (.text text) := by
  simp only [State.arrival, State.entryNamed]
  rcases s.registers.loggers.get? logger with _ | (e | e | _) <;> cases call <;> rfl

variable [ContextKey κ]

/-- What an operation brings to a sink is what its moment says, as long as no other sink in use has
    the same identity. -/
theorem take_arrival {s : State κ} {k : Sink} {least : Level}
    (capturing : k.destination = .capture least)
    (known : ∀ l, s.Holds l → l.id = k.id → l = k) {op : Operation κ} (formats : op.formats = true)
    (kept : List CapturedRecord) :
    (s.arrival k.id op).elim ⟨kept, false⟩ (Capture.take ⟨kept, false⟩) =
      ⟨kept ++ (Moment.of s op).keeps k least, false⟩ := by
  -- An entry whose sink has the identity writes to the sink itself.
  have other {e : Entry} {name : String} (found : s.entryNamed name = some e)
      (apart : e.sink ≠ k) : e.sink.id ≠ k.id :=
    fun same => apart (known _ (live_entryNamed found).holds same)
  have nothing : (⟨kept, false⟩ : Capture) = ⟨kept ++ [], false⟩ := by rw [List.append_nil]
  cases op with
  | log logger call message =>
    cases message with
    | failing reason => cases formats
    | text text =>
      rw [arrival_log_text]
      simp only [Moment.of, Moment.keeps]
      cases found : s.entryNamed logger with
      | none => exact nothing
      | some e =>
        rw [Option.bind_some, Entry.arrival]
        dsimp only
        by_cases same : e.sink = k
        · subst same
          rw [Sink.enabled_of_capture capturing, Sink.arrival_self capturing]
          by_cases reaches : least ≤ call.level
          · simp only [reaches, decide_true, and_self, if_true]
            rfl
          · simp only [reaches, decide_false, and_false, if_false]
            exact nothing
        · rw [Sink.arrival_of_ne (other found same), ite_self, if_neg fun h => same h.1]
          exact nothing
  | emit name level fields message =>
    cases message with
    | failing reason => cases formats
    | text text =>
      simp only [State.arrival, Moment.of, Moment.keeps]
      cases found : s.entryNamed name with
      | none => exact nothing
      | some e =>
        rw [Option.bind_some]
        dsimp only
        split
        · rename_i same
          subst same
          rw [Sink.arrival_self capturing]
          rfl
        · rename_i apart
          rw [Sink.arrival_of_ne (other found apart)]
          exact nothing
  | _ => exact nothing

theorem keeps_of_unheld {s : State κ} {k : Sink} (unheld : ¬ s.Holds k)
    (op : Operation κ) (least : Level) : (Moment.of s op).keeps k least = [] := by
  have other {e : Entry} {name : String} (found : s.entryNamed name = some e) : e.sink ≠ k :=
    fun same => unheld (same ▸ (live_entryNamed found).holds)
  cases op with
  | log logger call message =>
    cases message with
    | failing reason => rfl
    | text text =>
      simp only [Moment.of, Moment.keeps]
      cases found : s.entryNamed logger with
      | none => rfl
      | some e => exact if_neg fun h => other found h.1
  | emit name level fields message =>
    cases message with
    | failing reason => rfl
    | text text =>
      simp only [Moment.of, Moment.keeps]
      cases found : s.entryNamed name with
      | none => rfl
      | some e => exact if_neg (other found)
  | _ => rfl

omit [ContextKey κ] in
theorem levelFor?_eq_some {into name : String} {least given : Level}
    (asked : (Operation.recorder (κ := κ) into least).levelFor? name = some given) :
    name = into := by
  rw [Operation.levelFor?] at asked
  split at asked
  · assumption
  · cases asked

/-- The recorder of a name has just been made, on a new sink of the level asked for, or it was there
    before. -/
theorem recorder_after (s : State κ) (op : Operation κ) (name : String) :
    (s.after op).registers.recorders.get? name =
      ((op.levelFor? name).map fun least => ((Recorder.create least).run s.program).1).or
        (s.registers.recorders.get? name) := by
  by_cases makes : ∃ into least, op = .recorder into least
  · obtain ⟨into, least, rfl⟩ := makes
    change (s.registers.recorders.insert into _).get? name = _
    rw [NameMap.get?_insert, Operation.levelFor?]
    split <;> rfl
  · have other : op.levelFor? name = none := by
      cases op with
      | recorder into least => exact absurd ⟨into, least, rfl⟩ makes
      | _ => rfl
    rw [recorders_after s fun into least same => makes ⟨into, least, same⟩, other]
    rfl

theorem sink_of_recorder_after {s : State κ} {op : Operation κ} {name : String} {r : Recorder}
    (found : (s.after op).registers.recorders.get? name = some r) :
    (∃ least, op.levelFor? name = some least ∧ r.sink = ⟨s.program.nextId, .capture least⟩) ∨
      op.levelFor? name = none ∧ s.registers.recorders.get? name = some r := by
  rw [recorder_after, Option.or_eq_some_iff, Option.map_eq_some_iff,
    Option.map_eq_none_iff] at found
  rcases found with ⟨least, asked, rfl⟩ | old
  · exact .inl ⟨least, asked, rfl⟩
  · exact .inr old

structure Keeping (past : List (Moment κ)) (s : State κ) : Prop where
  apart : s.Apart
  unused : ∀ k least, s.program.nextId ≤ k.id → recorded k least past = []
  capturing : ∀ name, (s.registers.recorders.get? name).map (·.sink.destination) =
    (levelGiven name past).map Destination.capture
  own : ∀ a b r q, s.registers.recorders.get? a = some r → s.registers.recorders.get? b = some q →
    r.sink = q.sink → a = b
  kept : ∀ k least, k.destination = .capture least → s.Holds k ∨ s.program.nextId ≤ k.id →
    s.program.captures k.id = ⟨recorded k least past, false⟩

namespace Keeping

variable {past : List (Moment κ)} {s : State κ}

omit [ContextKey κ] in
theorem known (h : Keeping past s) {k : Sink} (live : s.Holds k ∨ s.program.nextId ≤ k.id) :
    ∀ l, s.Holds l → l.id = k.id → l = k := by
  intro l held same
  rcases live with here | above
  · exact h.apart.same l k held here same
  · have below := h.apart.below l held
    omega

theorem unused_after (h : Keeping past s) (op : Operation κ) (k : Sink) (least : Level)
    (above : (s.after op).program.nextId ≤ k.id) :
    recorded k least (past ++ [.of s op]) = [] := by
  have unborn : s.program.nextId ≤ k.id := Nat.le_trans (nextId_after s op) above
  have unheld : ¬ s.Holds k := fun held => absurd (h.apart.below k held) (Nat.not_lt.2 unborn)
  rw [recorded_concat, h.unused k least unborn, keeps_of_unheld unheld, List.append_nil, ite_self]

theorem clears_eq (h : Keeping past s) {k : Sink} (live : s.Holds k ∨ s.program.nextId ≤ k.id)
    (recorder : String) :
    (Moment.of s (.clear recorder)).clears k = s.clears k.id (.clear recorder) := by
  simp only [Moment.of, Moment.clears, State.clears]
  cases found : s.registers.recorders.get? recorder with
  | none => rfl
  | some r =>
    have same : r.sink = k ↔ r.sink.id = k.id :=
      ⟨congrArg Sink.id, h.known live _ (live_recorder found).holds⟩
    rw [Option.any_some, Option.any_some, Bool.eq_iff_iff, decide_eq_true_iff, beq_iff_eq, same]

theorem kept_after (h : Keeping past s) {op : Operation κ} (formats : op.formats = true)
    {k : Sink} {least : Level} (capturing : k.destination = .capture least)
    (live : s.Holds k ∨ s.program.nextId ≤ k.id) :
    (s.after op).program.captures k.id = ⟨recorded k least (past ++ [.of s op]), false⟩ := by
  have taken := take_arrival capturing (h.known live) formats (recorded k least past)
  rw [captures_after, h.kept k least capturing live, recorded_concat]
  cases op with
  | clear recorder =>
    rw [h.clears_eq live]
    split
    · rfl
    · exact taken
  | capture least' emits =>
    -- The sink that the operation makes and clears was never logged to.
    change (if (s.program.nextId == k.id) = true then Capture.empty else _) =
      ⟨recorded k least past ++ [], false⟩
    split
    · rename_i made
      rw [h.unused k least (Nat.le_of_eq (beq_iff_eq.1 made))]
      rfl
    · exact taken
  | _ => exact taken

theorem capturing_after (h : Keeping past s) (op : Operation κ) (name : String) :
    ((s.after op).registers.recorders.get? name).map (·.sink.destination) =
      (levelGiven name (past ++ [.of s op])).map Destination.capture := by
  rw [recorder_after, levelGiven_concat, Option.map_or, h.capturing name, Option.map_or,
    Option.map_map]
  rfl

theorem own_after (h : Keeping past s) (op : Operation κ) {a b : String} {r q : Recorder}
    (first : (s.after op).registers.recorders.get? a = some r)
    (second : (s.after op).registers.recorders.get? b = some q) (same : r.sink = q.sink) :
    a = b := by
  have unmade {name : String} {q : Recorder} {d : Destination}
      (old : s.registers.recorders.get? name = some q) : q.sink ≠ ⟨s.program.nextId, d⟩ := by
    intro same
    have below : q.sink.id < s.program.nextId := h.apart.below _ (live_recorder old).holds
    rw [same] at below
    exact Nat.lt_irrefl _ below
  rcases sink_of_recorder_after first with ⟨least, asked, sink⟩ | ⟨-, old⟩ <;>
    rcases sink_of_recorder_after second with ⟨least', asked', sink'⟩ | ⟨-, old'⟩
  · cases op with
    | recorder into least =>
      exact (levelFor?_eq_some asked).trans (levelFor?_eq_some asked').symm
    | _ => cases asked
  · exact absurd (same.symm.trans sink) (unmade old')
  · exact absurd (same.trans sink') (unmade old)
  · exact h.own a b r q old old' same

theorem after (h : Keeping past s) {op : Operation κ} (formats : op.formats = true) :
    Keeping (past ++ [.of s op]) (s.after op) := by
  obtain ⟨new, grows⟩ := grows_after s op
  refine ⟨h.apart.after op, h.unused_after op, h.capturing_after op,
    fun a b r q first second => h.own_after op first second, ?_⟩
  · intro k least capturing live
    refine h.kept_after formats capturing ?_
    rcases live with held | above
    · exact (grows.held k held).imp_right fun made => (grows.fresh k made).1
    · exact .inr (Nat.le_trans grows.nextId above)

end Keeping

theorem keeping_run {s : State κ} (begins : s.Begins) {ops : List (Operation κ)}
    (formats : ∀ op ∈ ops, op.formats = true) : Keeping (moments s ops) (run s ops).2 := by
  refine run_induction ?_ fun past t op mem held => held.after (formats op mem)
  have empty := begins.registers
  have nothing (id : Nat) : s.program.captures id = Capture.empty := by cases begins <;> rfl
  refine ⟨apart_of_begins begins, fun _ _ _ => rfl, fun name => ?_, fun a b r q first => ?_,
    fun k least _ _ => nothing k.id⟩
  · rw [empty]
    rfl
  · rw [empty] at first
    cases first

/-- While every message can be put into text, the recorder that was last made under a name shows at
    any time what was logged since it was last cleared, from the level on that it was made for. It
    alone shows that. -/
theorem recorders_shows_recorded {s : State κ} (begins : s.Begins) (ops : List (Operation κ))
    (formats : ∀ op ∈ ops, op.formats = true) :
    let ms := moments s ops
    let last := (run s ops).2
    (∀ a b r q, last.registers.recorders.get? a = some r →
      last.registers.recorders.get? b = some q → r.sink = q.sink → a = b) ∧
    (∀ name, last.registers.recorders.get? name = none ↔ levelGiven name ms = none) ∧
    ∀ name r, last.registers.recorders.get? name = some r →
      ∃ least, levelGiven name ms = some least ∧ r.sink.destination = .capture least ∧
        r.Shows last.program (recorded r.sink least ms) := by
  intro ms last
  have keeping := keeping_run begins formats
  refine ⟨keeping.own, fun name => ?_, fun name r found => ?_⟩
  · have levels := keeping.capturing name
    rw [← Option.map_eq_none_iff, levels, Option.map_eq_none_iff]
  · have levels := keeping.capturing name
    rw [found, Option.map_some] at levels
    obtain ⟨least, given, capturing⟩ := Option.map_eq_some_iff.1 levels.symm
    have kept := keeping.kept r.sink least capturing.symm (.inl (live_recorder found).holds)
    refine ⟨least, given, capturing.symm, ?_⟩
    have shown := r.shows_records last.program
    rw [kept] at shown
    exact shown

/-- Two recorders of different levels. Entries on the sink of the first are had from it, by
    enriching one and by making a new one. -/
theorem kept_above_level_since_cleared :
    let ops : List (Operation Key) :=
      [.recorder "t" .info, .recorder "u" .error, .withPairs "t" "e" [("user", .str "ann")],
        .log "e" (.at .info) (.text "gone"), .clear "t", .log "e" (.at .debug) (.text "low"),
        .log "e" (.at .warn) (.text "kept"), .entryOn (.recorder "t") "n",
        .log "n" (.at .info) (.text "new"), .log "u" (.at .warn) (.text "low")]
    let last := (run (.fresh Environment.empty) ops).2
    ∃ r q, last.registers.recorders.get? "t" = some r ∧
      last.registers.recorders.get? "u" = some q ∧
      r.records.run last.program =
        ([⟨.warn, "kept", Fields.ofPairs [("user", .str "ann")]⟩, ⟨.info, "new", ∅⟩],
          last.program) ∧
      q.records.run last.program = ([], last.program) := by
  intro ops last
  have formats : ∀ op ∈ ops, op.formats = true := by decide
  obtain ⟨-, -, shows⟩ := recorders_shows_recorded (.fresh Environment.empty) ops formats
  obtain ⟨least, given, -, shown⟩ := shows "t" _ rfl
  obtain ⟨least', given', -, shown'⟩ := shows "u" _ rfl
  cases given
  cases given'
  exact ⟨_, _, rfl, rfl, shown.records, shown'.records⟩

end Session

end ScopedLog
