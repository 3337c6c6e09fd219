import ScopedLog.Proofs.Records
set_option autoImplicit false

namespace ScopedLog

namespace Holder

theorem slot_foldl_offer (h : Holder) (ls : List Logger) :
    (ls.foldl offer h).slot = (ls.filterMap Logger.asEntry).getLast?.getD h.slot := by
  induction ls generalizing h with
  | nil => rfl
  | cons l rest ih =>
    rw [List.foldl_cons, ih, offer]
    cases exposed : l.asEntry with
    | none => rw [List.filterMap_cons_none exposed]
    | some e => rw [List.filterMap_cons_some exposed, List.getLast?_cons, Option.getD_some]

theorem rejected_foldl_offer (h : Holder) (ls : List Logger) :
    (ls.foldl offer h).rejected =
      h.rejected + UInt64.ofNat (ls.countP fun l => l.asEntry.isNone) := by
  induction ls generalizing h with
  | nil => simp
  | cons l rest ih =>
    rw [List.foldl_cons, ih, offer, List.countP_cons]
    cases l.asEntry with
    | none =>
      change h.rejected + 1 + UInt64.ofNat _ = h.rejected + UInt64.ofNat (_ + 1)
      rw [UInt64.ofNat_add, UInt64.add_assoc, UInt64.add_comm 1]
      rfl
    | some e => rfl

end Holder

namespace Session

variable {κ : Type}

deriving instance DecidableEq for HolderName

def Moment.offer? (name : HolderName) (m : Moment κ) : Option Logger :=
  match m.operation with
  | .set holder logger =>
    if holder = name then m.before.registers.loggers.get? logger else none
  | _ => none

def offers (name : HolderName) (ms : List (Moment κ)) : List Logger :=
  ms.filterMap (Moment.offer? name)

theorem offers_append (name : HolderName) (ms rest : List (Moment κ)) :
    offers name (ms ++ rest) = offers name ms ++ offers name rest :=
  List.filterMap_append

def Operation.makes (name : HolderName) : Operation κ → Bool
  | .holder into _ => name = .own into
  | _ => false

/-- A default logger is left alone between two states, or set up as the environment says. -/
structure State.Keeps (name : HolderName) (s t : State κ) : Prop where
  environment : t.program.environment = s.program.environment
  earlier : t.earlier = s.earlier
  holder : t.holder? name = s.holder? name ∨ name = .shared ∧ s.holder? name = none ∧
    ∃ id, t.holder? name = some (Holder.of (s.program.environment.config.builtAt id))

namespace State.Keeps

variable {name : HolderName} {s t u : State κ}

theorem of_advances (adv : s.Advances t) : s.Keeps name t := by
  refine ⟨adv.program.environment, ?_, ?_⟩
  · rw [adv.only]
    rfl
  · cases name with
    | shared =>
      rcases adv.program.shared with kept | ⟨unset, id, set, _⟩
      · exact .inl kept
      · exact .inr ⟨rfl, unset, id, set⟩
    | own name =>
      left
      unfold State.holder?
      rw [adv.registers]

theorem beside (h : s.Keeps name t) (program : u.program = t.program)
    (earlier : u.earlier = t.earlier)
    (holders : u.registers.holders = t.registers.holders) : s.Keeps name u := by
  have same : u.holder? name = t.holder? name := by
    cases name with
    | shared => exact congrArg Program.shared program
    | own name => exact congrArg (NameMap.get? · name) holders
  refine ⟨?_, earlier.trans h.earlier, ?_⟩
  · rw [program]
    exact h.environment
  · rw [same]
    exact h.holder

theorem other (h : s.Keeps name t) {changed : HolderName} (different : changed ≠ name)
    (new : Holder) : s.Keeps name (t.keepHolder changed new) := by
  have same : (t.keepHolder changed new).holder? name = t.holder? name := by
    cases changed with
    | shared =>
      cases name with
      | shared => exact absurd rfl different
      | own name => rfl
    | own into =>
      cases name with
      | shared => rfl
      | own name =>
        change (t.registers.holders.insert into new).get? name = _
        rw [NameMap.get?_insert, if_neg fun here => different (congrArg HolderName.own here.symm)]
        rfl
  refine ⟨?_, ?_, ?_⟩
  · rw [← h.environment]
    cases changed <;> rfl
  · rw [← h.earlier]
    cases changed <;> rfl
  · rw [same]
    exact h.holder

theorem refl (s : State κ) : s.Keeps name s :=
  of_advances (.refl s)

theorem elim {α : Type} (found : Option α) {go : α → State κ} (h : ∀ a, s.Keeps name (go a)) :
    s.Keeps name (found.elim s go) := by
  cases found with
  | none => exact refl s
  | some a => exact h a

theorem onHolder (s : State κ) (asked : HolderName) {go : State κ → Holder → State κ}
    (h : ∀ (t : State κ) (holder : Holder), s.Advances t → s.Keeps name (go t holder)) :
    s.Keeps name (s.onHolder asked go) := by
  have reached : s.Advances (s.reach asked) := .reach s asked
  unfold State.onHolder
  cases (s.reach asked).holder? asked with
  | none => exact of_advances reached
  | some holder => exact h _ holder reached

theorem enriched (adv : s.Advances t) (into : String) {a : Action Entry}
    (h : ScopedLog.Advances a) :
    s.Keeps name (t.enriched into a) :=
  (of_advances (adv.trans (.acted t h))).beside rfl rfl rfl

end State.Keeps

theorem holder?_keepHolder (s : State κ) (name : HolderName) (h : Holder) :
    (s.keepHolder name h).holder? name = some h := by
  cases name with
  | shared => rfl
  | own into =>
    change (s.registers.holders.insert into h).get? into = some h
    rw [NameMap.get?_insert, if_pos rfl]

def Moment.touches (m : Moment κ) : Bool :=
  m.before.touches m.operation

def seedOf (ms : List (Moment κ)) : Option Entry :=
  (ms.find? Moment.touches).map (·.before.program.seedEntry)

theorem seedOf_append (ms rest : List (Moment κ)) :
    seedOf (ms ++ rest) = (seedOf ms).or (seedOf rest) := by
  rw [seedOf, List.find?_append]
  unfold seedOf
  cases ms.find? Moment.touches <;> rfl

theorem seedOf_singleton (m : Moment κ) :
    seedOf [m] = if m.touches then some m.before.program.seedEntry else none := by
  rw [seedOf, List.find?_singleton]
  split <;> rfl

theorem seedOf_isSome (ms : List (Moment κ)) : (seedOf ms).isSome = ms.any Moment.touches := by
  rw [seedOf, Option.isSome_map, List.isSome_find?]

theorem offer?_of_untouched {m : Moment κ} (untouched : m.touches = false) :
    m.offer? .shared = none := by
  obtain ⟨s, op, report⟩ := m
  cases op with
  | set holder logger =>
    cases holder with
    | own name => rfl
    | shared =>
      have unasked : s.asks (.set .shared logger) = false := (Bool.or_eq_false_iff.1 untouched).1
      have missing : s.registers.loggers.get? logger = none := by
        simpa [State.asks, HolderName.isShared] using unasked
      exact missing
  | _ => rfl

theorem offers_of_untouched {ms : List (Moment κ)} (untouched : seedOf ms = none) :
    offers .shared ms = [] := by
  rw [offers, List.filterMap_eq_nil_iff]
  intro m among
  have none := List.find?_eq_none.1 (Option.map_eq_none_iff.1 untouched) m among
  exact offer?_of_untouched (by simpa using none)

section Offering

variable [ContextKey κ] {name : HolderName} {s : State κ} {op : Operation κ}

theorem keeps_after (s : State κ) (name : HolderName) (op : Operation κ)
    (offered : (Moment.of s op).offer? name = none) (makes : op.makes name = false) :
    s.Keeps name (s.after op) := by
  have same : s.Keeps name s := .refl s
  cases op with
  | facade f =>
    refine ⟨rfl, rfl, .inl ?_⟩
    cases name <;> rfl
  | background into | foreign into => exact same.beside rfl rfl rfl
  | withValue source into key item | withHidden source into key item
  | withValues source into items => exact .elim _ fun _ => same.beside rfl rfl rfl
  | bind source into logger => exact .elim _ fun _ => .elim _ fun _ => same.beside rfl rfl rfl
  | recorder into least =>
    have made : s.Keeps name (s.acted (Recorder.create least)) :=
      .of_advances (.acted s (.bind (Entry.advances_create _) fun _ => .pure _))
    exact made.beside rfl rfl rfl
  | recorderEntry recorder into => exact .elim _ fun _ => same.beside rfl rfl rfl
  | wrapper source into | clone source into => exact .elim _ fun _ => same.beside rfl rfl rfl
  | facadeEntry into target => exact .enriched (.refl s) into (Entry.advances_create _)
  | plainEntry into => exact .enriched (.refl s) into (Entry.advances_create _)
  | entryOn source into =>
    exact .elim _ fun k => .enriched (.refl s) into (Entry.advances_onSink k)
  | withPairs source into pairs =>
    exact .elim _ fun e => .enriched (.refl s) into (e.advances_withFields _)
  | withFields source into fields =>
    exact .elim _ fun e => .enriched (.refl s) into (e.advances_withFields fields)
  | withError source into text =>
    exact .elim _ fun l => .enriched (.refl s) into (l.advances_withError text)
  | holder into source =>
    have different : HolderName.own into ≠ name := by
      simpa [Operation.makes, eq_comm] using makes
    cases source with
    | none => exact (State.Keeps.of_advances (.acted s Holder.advances_standard)).other different _
    | some entry => exact .elim _ fun _ => same.other different _
  | set holder logger =>
    change (if holder = name then s.registers.loggers.get? logger else none) = none at offered
    split at offered
    · change s.Keeps name ((s.registers.loggers.get? logger).elim s _)
      rw [offered]
      exact same
    · rename_i different
      refine .elim _ fun l => .onHolder s holder fun t h reached => ?_
      exact (State.Keeps.of_advances (reached.trans (.acted t (h.advances_set l)))).other
        different _
  | get holder into =>
    change s.Keeps name (s.onHolder holder fun t h => t.keepLogger into (.entry h.slot))
    refine .onHolder s holder fun t h reached => ?_
    exact (State.Keeps.of_advances reached).beside rfl rfl rfl
  | bound context into => exact .elim _ fun _ => .elim _ fun _ => same.beside rfl rfl rfl
  | resolve holder context into =>
    refine .elim _ fun ctx => .onHolder s holder fun t h reached => ?_
    exact (State.Keeps.of_advances reached).beside rfl rfl rfl
  | logger holder context into pairs keys =>
    exact .elim _ fun ctx => .onHolder s holder fun t h reached =>
      .enriched reached into (h.advances_loggerWithFields ctx pairs keys)
  | value | valueJson | contains | inspectContext | compare | inspectEntry | log | enabled | emit |
    records | messages | last | hasMessage | assertMessage | clear | capture | inspectHolder |
    rejected => exact .of_advances (advances_after_of_quiet s rfl)

theorem offer?_eq_some {l : Logger} (offered : (Moment.of s op).offer? name = some l) :
    ∃ logger, op = .set name logger ∧ s.registers.loggers.get? logger = some l := by
  cases op with
  | set holder logger =>
    change (if holder = name then s.registers.loggers.get? logger else none) = some l at offered
    split at offered
    · rename_i here
      exact ⟨logger, by rw [here], offered⟩
    · cases offered
  | _ => cases offered

theorem fixed_after (s : State κ) (op : Operation κ) :
    (s.after op).program.environment = s.program.environment ∧
      (s.after op).earlier = s.earlier := by
  -- Every operation leaves some default logger alone.
  obtain ⟨name, offered, makes⟩ :
      ∃ name, (Moment.of s op).offer? name = none ∧ op.makes name = false := by
    cases op with
    | set holder logger =>
      cases holder with
      | shared => exact ⟨.own "", rfl, rfl⟩
      | own into => exact ⟨.shared, rfl, rfl⟩
    | _ => exact ⟨.shared, rfl, rfl⟩
  have kept := keeps_after s name op offered makes
  exact ⟨kept.environment, kept.earlier⟩

theorem holder?_after {h : Holder} (here : s.holder? name = some h)
    (makes : op.makes name = false) :
    (s.after op).holder? name = some ((offers name [.of s op]).foldl Holder.offer h) := by
  cases offered : (Moment.of s op).offer? name with
  | none =>
    rw [offers, List.filterMap_cons_none offered]
    rcases (keeps_after s name op offered makes).holder with kept | ⟨_, unset, _⟩
    · exact kept.trans here
    · cases unset.symm.trans here
  | some l =>
    obtain ⟨logger, rfl, found⟩ := offer?_eq_some offered
    rw [offers, List.filterMap_cons_some offered,
      after_set found ((State.Advances.reach s name).holder? here), holder?_keepHolder]
    rfl

theorem holder?_run {h : Holder} (here : s.holder? name = some h) {ops : List (Operation κ)}
    (makes : ∀ op ∈ ops, op.makes name = false) :
    (run s ops).2.holder? name =
      some ((offers name (moments s ops)).foldl Holder.offer h) := by
  refine run_induction (motive := fun past t =>
    t.holder? name = some ((offers name past).foldl Holder.offer h)) here ?_
  intro past t op among held
  rw [holder?_after held (makes op among), offers_append, List.foldl_append]

theorem fixed_run (s : State κ) (ops : List (Operation κ)) :
    (run s ops).2.program.environment = s.program.environment ∧
      (run s ops).2.earlier = s.earlier := by
  refine run_induction (motive := fun _ t =>
    t.program.environment = s.program.environment ∧ t.earlier = s.earlier) ⟨rfl, rfl⟩ ?_
  rintro _ t op - ⟨environment, earlier⟩
  have fixed := fixed_after t op
  exact ⟨fixed.1.trans environment, fixed.2.trans earlier⟩

theorem shared_after (s : State κ) (op : Operation κ) :
    (s.after op).program.shared =
      (if s.touches op then some (Program.touch.run s.program).1 else s.program.shared).map
        ((offers .shared [.of s op]).foldl Holder.offer) := by
  cases replaces : op.replacesShared with
  | false =>
    have unoffered : offers .shared [Moment.of s op] = [] := by
      cases op with
      | set holder logger =>
        cases holder with
        | own name => rfl
        | shared => cases replaces
      | _ => rfl
    rw [(tells_after s replaces).shared, unoffered]
    exact Option.map_id'.symm
  | true =>
    obtain ⟨logger, rfl⟩ := eq_set_of_replacesShared replaces
    have offer : (Moment.of s (.set .shared logger)).offer? .shared =
        s.registers.loggers.get? logger := rfl
    cases found : s.registers.loggers.get? logger with
    | none =>
      have unoffered : offers .shared [Moment.of s (.set .shared logger)] = [] :=
        List.filterMap_cons_none (offer.trans found)
      rw [after_set_missing found, (touches_set_missing found).2, unoffered]
      exact Option.map_id'.symm
    | some l =>
      have offered : offers .shared [Moment.of s (.set .shared logger)] = [l] :=
        List.filterMap_cons_some (offer.trans found)
      rw [after_set found (holder?_reach_shared s), touches_set_shared found, offered]
      rfl

/-- From a program whose default logger is not in place, offers make of it what they make of the
    entry that it is set up with. -/
theorem shared_run {s : State κ} (unset : s.program.shared = none) (ops : List (Operation κ)) :
    (run s ops).2.program.shared = (seedOf (moments s ops)).map fun seed =>
      (offers .shared (moments s ops)).foldl Holder.offer (Holder.of seed) := by
  refine run_induction (motive := fun past t => t.program.shared = (seedOf past).map fun seed =>
    (offers .shared past).foldl Holder.offer (Holder.of seed)) unset ?_
  intro past t op _ held
  have made (seed : Entry) :
      (offers .shared (past ++ [.of t op])).foldl Holder.offer (Holder.of seed) =
        (offers .shared [.of t op]).foldl Holder.offer
          ((offers .shared past).foldl Holder.offer (Holder.of seed)) := by
    rw [offers_append, List.foldl_append]
  rw [shared_after, seedOf_append]
  simp only [made]
  cases first : seedOf past with
  | some seed =>
    rw [first] at held
    have kept : (Program.touch.run t.program).1 =
        (offers .shared past).foldl Holder.offer (Holder.of seed) := by
      rw [Program.run_touch, held]
      rfl
    rw [kept, held, Option.map_some, ite_self]
    rfl
  | none =>
    rw [first] at held
    have seeded : (Program.touch.run t.program).1 = Holder.of t.program.seedEntry := by
      rw [Program.run_touch, held]
      rfl
    -- Nothing was offered before the first touch, so the set-up entry has the offers of now alone.
    rw [offers_of_untouched first, seeded, held, seedOf_singleton]
    change _ = Option.map _ (if t.touches op then _ else _)
    split <;> rfl

theorem builtAt_of_seedOf {s : State κ} {ops : List (Operation κ)} {e : Entry}
    (found : seedOf (moments s ops) = some e) :
    ∃ id, e = s.program.environment.config.builtAt id := by
  obtain ⟨m, first, rfl⟩ := Option.map_eq_some_iff.1 found
  obtain ⟨past, future, split⟩ := List.append_of_mem (List.mem_of_find?_eq_some first)
  obtain ⟨before, _, _, _, start, _⟩ := moments_split split
  have here : m.before = (run s before).2 := congrArg Moment.before start
  refine ⟨m.before.program.nextId, ?_⟩
  rw [Program.seedEntry, here, (fixed_run s before).1]

/-- The default logger is on the entry `seed` and nothing has been offered to it yet. That of the
    program may still have to be set up from the environment. -/
structure State.Unoffered (s : State κ) (name : HolderName) (seed : Entry) : Prop where
  earlier : name = .shared → s.earlier = 0
  holder : s.holder? name = some (Holder.of seed) ∨ name = .shared ∧ s.program.shared = none ∧
    ∃ id, seed = s.program.environment.config.builtAt id

/-- The default logger that was on `seed` at first is what the offers of the past have made of it.
    That of the program may also still be unset, and then nothing was offered to it. -/
def State.Reflects (name : HolderName) (seed : Entry) (past : List (Moment κ)) (t : State κ) :
    Prop :=
  t.holder? name = some ((offers name past).foldl Holder.offer (Holder.of seed)) ∨
    name = .shared ∧ t.program.shared = none ∧ offers name past = []

theorem reflects_run {seed : Entry} (new : s.Unoffered name seed) {ops : List (Operation κ)}
    (makes : ∀ op ∈ ops, op.makes name = false) :
    ∃ seed, s.Unoffered name seed ∧
      ∀ first, first <+: ops → State.Reflects name seed (moments s first) (run s first).2 := by
  rcases new.holder with here | ⟨rfl, unset, id, built⟩
  · refine ⟨seed, new, fun first among => .inl (holder?_run here fun op mem => ?_)⟩
    exact makes op (among.subset mem)
  refine ⟨(seedOf (moments s ops)).getD seed, ⟨new.earlier, .inr ⟨rfl, unset, ?_⟩⟩, ?_⟩
  · cases found : seedOf (moments s ops) with
    | none => exact ⟨id, built⟩
    | some e => exact builtAt_of_seedOf found
  · intro first among
    have held := shared_run unset first
    cases found : seedOf (moments s first) with
    | none =>
      -- Until the default logger is set up there is nothing to tell of it.
      rw [found] at held
      exact .inr ⟨rfl, held, offers_of_untouched found⟩
    | some e =>
      rw [found] at held
      obtain ⟨rest, later⟩ := moments_prefix (s := s) among
      rw [← later, seedOf_append, found]
      exact .inl held

end Offering

end Session

end ScopedLog
